import QuicFec.Lib.Go
import QuicFec.Protocol

/-! # Streams the peer opens

`streams_map_incoming.go`: the streams of one type that the peer opens, the
limit on how far it may open them, and the order in which the application
accepts them.  A stream deleted before the application accepted it stays in
the map, marked, until `AcceptStream` hands it out and deletes it.  The
MAX_STREAMS frames the map gives `queueMaxStreamID` are kept in `queued`, in
order.

`newStream` is the constructor the map is made with.  `AcceptStream` waits
until the next stream is open; a call that finds it missing returns `none`
here and leaves the map as it is, as the Go call does while it waits or when
its context ends.  The calls return their `streamError`s as values, with the
stream numbers the caller's `convertStreamError` formats.  Stream numbers
(`protocol.StreamNum`, an `int64`) are `Int`s.

Along every run of calls (`call`) the map stays `Wellformed`: every stream
not accepted yet is in the map, the map never holds more than `maxNumStreams`
streams, and the limits queued only grow.  At every state a run reaches,
`GetOrOpenStream` opens the streams up to any number within the limit,
`AcceptStream` hands out the next stream once it is open, and `DeleteStream`
marks a stream not accepted yet and removes an accepted one
(`incomingStreamsMap_run`). -/
set_option autoImplicit false

namespace QuicFec

open Go QuicFec.Protocol

structure IncomingStreamEntry (T : Type) where
  stream : T
  shouldDelete : Bool
deriving DecidableEq

structure MaxStreamsFrame where
  type : StreamType
  maxStreamNum : Int
deriving DecidableEq, Repr

/-- `streamError`: a message with a `%d` for each of its stream numbers, which
`convertStreamError` fills in with the streams' IDs. -/
structure StreamsMap.StreamError where
  message : String
  nums : List Int
deriving DecidableEq, Repr

/-- `streamError.Error`: the message, with its `%d`s. -/
def StreamsMap.StreamError.error (e : StreamsMap.StreamError) : String := e.message

/-- `incomingStreamsMap`, with the frames handed to `queueMaxStreamID` so far. -/
structure IncomingStreamsMap (T : Type) where
  streamType : StreamType
  streams : AList fun _ : Int => IncomingStreamEntry T
  nextStreamToAccept : Int
  nextStreamToOpen : Int
  maxStream : Int
  maxNumStreams : Nat
  queued : List MaxStreamsFrame

namespace IncomingStreamsMap

variable {T : Type}

def newIncomingStreamsMap (streamType : StreamType) (maxStreams : Nat) : IncomingStreamsMap T where
  streamType := streamType
  streams := ∅
  nextStreamToAccept := 1
  nextStreamToOpen := 1
  maxStream := maxStreams
  maxNumStreams := maxStreams
  queued := []

/-- `deleteStream`: nil, or the `streamError` it returns. -/
def deleteStream (num : Int) :
    Call (IncomingStreamsMap T) (Option StreamsMap.StreamError) := fun m =>
  match m.streams.lookup num with
  | none => .ok (some ⟨"tried to delete unknown incoming stream %d", [num]⟩) m
  | some entry =>
      -- not accepted yet: only mark it, `AcceptStream` deletes it
      if num ≥ m.nextStreamToAccept then
        if entry.shouldDelete then .ok (some ⟨"tried to delete incoming stream %d multiple times", [num]⟩) m
        else .ok none { m with streams := m.streams.insert num { entry with shouldDelete := true } }
      else
        let m := { m with streams := m.streams.erase num }
        if m.maxNumStreams > m.streams.entries.length then
          let maxStream :=
            m.nextStreamToOpen + ((m.maxNumStreams - m.streams.entries.length : Nat) : Int) - 1
          if maxStream ≤ maxStreamCount then
            .ok none { m with maxStream := maxStream, queued := m.queued ++ [⟨m.streamType, maxStream⟩] }
          else .ok none m
        else .ok none m

/-- The loop of `GetOrOpenStream` that opens `count` streams from `newNum` on. -/
def openStreams (newStream : Int → T) :
    Nat → Int → (AList fun _ : Int => IncomingStreamEntry T) →
      AList fun _ : Int => IncomingStreamEntry T
  | 0, _, streams => streams
  | count + 1, newNum, streams =>
      openStreams newStream count (newNum + 1) (streams.insert newNum ⟨newStream newNum, false⟩)

/-- `GetOrOpenStream`: the stream `num`, `none` for Go's nil, or the
`streamError` for a stream above the limit. -/
def getOrOpenStream (newStream : Int → T) (num : Int) :
    Call (IncomingStreamsMap T) (Except StreamsMap.StreamError (Option T)) := fun m =>
  if num > m.maxStream then .ok (.error ⟨"peer tried to open stream %d (current limit: %d)", [num, m.maxStream]⟩) m
  -- opened before: the stream, unless it is gone or waits to be deleted
  else if num < m.nextStreamToOpen then
    match m.streams.lookup num with
    | some entry => .ok (.ok (if entry.shouldDelete then none else some entry.stream)) m
    | none => .ok (.ok none) m
  else
    let m := { m with
      streams := openStreams newStream (num - m.nextStreamToOpen + 1).toNat m.nextStreamToOpen m.streams
      nextStreamToOpen := num + 1 }
    .ok (.ok ((m.streams.lookup num).map (·.stream))) m

/-- The stream a lookup finds, unless it waits to be deleted. -/
def visible : Option (IncomingStreamEntry T) → Option T
  | some entry => if entry.shouldDelete then none else some entry.stream
  | none => none

/-- `AcceptStream`, once it holds the lock: the next stream, `none` while it
is not open yet, or the error of deleting it. -/
def acceptStream : Call (IncomingStreamsMap T) (Except StreamsMap.StreamError (Option T)) := fun m =>
  let num := m.nextStreamToAccept
  match m.streams.lookup num with
  | none => .ok (.ok none) m
  | some entry =>
      let m := { m with nextStreamToAccept := m.nextStreamToAccept + 1 }
      -- a stream deleted before it was accepted is deleted now
      if entry.shouldDelete then
        (do
          match ← deleteStream num with
          | some err => pure (Except.error err)
          | none => pure (Except.ok (some entry.stream))) m
      else .ok (.ok (some entry.stream)) m

/-! ## Opening streams -/

section Open

variable (newStream : Int → T)

theorem lookup_openStreams :
    ∀ (count : Nat) (newNum k : Int) (streams : AList fun _ : Int => IncomingStreamEntry T),
      (openStreams newStream count newNum streams).lookup k =
        if newNum ≤ k ∧ k < newNum + count then some ⟨newStream k, false⟩ else streams.lookup k
  | 0, newNum, k, streams => by
      rw [openStreams, if_neg (by omega)]
  | count + 1, newNum, k, streams => by
      rw [openStreams, lookup_openStreams count (newNum + 1) k]
      by_cases later : newNum + 1 ≤ k ∧ k < newNum + 1 + count
      · rw [if_pos later, if_pos (by omega)]
      · rw [if_neg later]
        by_cases here : k = newNum
        · subst here
          rw [AList.lookup_insert, if_pos (by omega)]
        · rw [AList.lookup_insert_ne here, if_neg (by omega)]

theorem mem_openStreams (count : Nat) (newNum k : Int)
    (streams : AList fun _ : Int => IncomingStreamEntry T) :
    k ∈ openStreams newStream count newNum streams ↔ (newNum ≤ k ∧ k < newNum + count) ∨ k ∈ streams := by
  rw [← AList.lookup_isSome, ← AList.lookup_isSome, lookup_openStreams]
  by_cases opened : newNum ≤ k ∧ k < newNum + count
  · simp [opened]
  · simp [opened]

theorem length_openStreams :
    ∀ (count : Nat) (newNum : Int) (streams : AList fun _ : Int => IncomingStreamEntry T),
      (∀ k ∈ streams, k < newNum) →
        (openStreams newStream count newNum streams).entries.length = streams.entries.length + count
  | 0, _, _, _ => rfl
  | count + 1, newNum, streams, below => by
      have absent : newNum ∉ streams := fun present => Int.lt_irrefl _ (below newNum present)
      rw [openStreams, length_openStreams count (newNum + 1), Map.length_insert_of_notMem absent]
      · omega
      · intro k member
        rcases (AList.mem_insert _).mp member with rfl | old
        · omega
        · have := below k old
          omega

end Open

/-! ## The invariant -/

/-- The map between two calls.  The streams not accepted yet are all in the
map; the limit `maxStream` leaves room for no more than `maxNumStreams`
streams; the MAX_STREAMS frames queued carry increasing limits. -/
structure Wellformed (newStream : Int → T) (m : IncomingStreamsMap T) : Prop where
  acceptFromOne : 1 ≤ m.nextStreamToAccept
  acceptBelowOpen : m.nextStreamToAccept ≤ m.nextStreamToOpen
  openWithinLimit : m.nextStreamToOpen - 1 ≤ m.maxStream
  opened : ∀ k ∈ m.streams, k < m.nextStreamToOpen
  notAcceptedKept : ∀ k, m.nextStreamToAccept ≤ k → k < m.nextStreamToOpen → k ∈ m.streams
  made : ∀ k entry, m.streams.lookup k = some entry → entry.stream = newStream k
  counted : (m.streams.entries.length : Int) + (m.maxStream - (m.nextStreamToOpen - 1)) ≤ m.maxNumStreams
  queuedIncreasing : (m.queued.map (·.maxStreamNum)).Pairwise (· < ·)
  queuedBelow : ∀ f ∈ m.queued, f.maxStreamNum ≤ m.maxStream ∧ f.maxStreamNum ≤ maxStreamCount

section Invariant

variable {newStream : Int → T}

theorem wellformed_newIncomingStreamsMap (streamType : StreamType) (maxStreams : Nat) :
    Wellformed newStream (newIncomingStreamsMap streamType maxStreams : IncomingStreamsMap T) where
  acceptFromOne := Int.le_refl _
  acceptBelowOpen := Int.le_refl _
  openWithinLimit := by simp [newIncomingStreamsMap]
  opened := by simp [newIncomingStreamsMap, AList.notMem_empty]
  notAcceptedKept := by
    intro k atLeast below
    simp only [newIncomingStreamsMap] at atLeast below
    omega
  made := by simp [newIncomingStreamsMap, AList.lookup_empty]
  counted := by simp [newIncomingStreamsMap, AList.empty_entries]
  queuedIncreasing := List.Pairwise.nil
  queuedBelow := by simp [newIncomingStreamsMap]

theorem Wellformed.length_le {m : IncomingStreamsMap T} (wf : Wellformed newStream m) :
    m.streams.entries.length ≤ m.maxNumStreams := by
  have := wf.counted
  have := wf.openWithinLimit
  omega

theorem getOrOpenStream_wellformed {m : IncomingStreamsMap T} (wf : Wellformed newStream m)
    (num : Int) :
    ∃ r m', getOrOpenStream newStream num m = .ok r m' ∧ Wellformed newStream m' ∧
      m'.nextStreamToAccept = m.nextStreamToAccept ∧ m'.maxNumStreams = m.maxNumStreams ∧
        m'.maxStream = m.maxStream ∧ m'.queued = m.queued := by
  unfold getOrOpenStream
  by_cases tooHigh : num > m.maxStream
  · exact ⟨_, m, if_pos tooHigh, wf, rfl, rfl, rfl, rfl⟩
  by_cases old : num < m.nextStreamToOpen
  · simp only [tooHigh, old, if_false, if_true]
    split
    · exact ⟨_, m, rfl, wf, rfl, rfl, rfl, rfl⟩
    · exact ⟨_, m, rfl, wf, rfl, rfl, rfl, rfl⟩
  rw [if_neg tooHigh, if_neg old]
  refine ⟨_, _, rfl, ?_, rfl, rfl, rfl, rfl⟩
  have below := wf.opened
  have acceptBelowOpen := wf.acceptBelowOpen
  have count : ((num - m.nextStreamToOpen + 1).toNat : Int) = num - m.nextStreamToOpen + 1 := by
    omega
  refine ⟨wf.acceptFromOne, by dsimp only; omega, by dsimp only; omega, ?_, ?_, ?_, ?_,
    wf.queuedIncreasing, wf.queuedBelow⟩
  · intro k member
    rcases (mem_openStreams newStream _ _ k _).mp member with ⟨-, new⟩ | old
    · dsimp only
      omega
    · have := below k old
      dsimp only
      omega
  · intro k atLeast less
    rw [mem_openStreams]
    by_cases new : m.nextStreamToOpen ≤ k
    · exact Or.inl ⟨new, by dsimp only at less; omega⟩
    · exact Or.inr (wf.notAcceptedKept k atLeast (by omega))
  · intro k entry found
    rw [lookup_openStreams] at found
    split_ifs at found
    · cases found
      rfl
    · exact wf.made k entry found
  · have counted := wf.counted
    dsimp only
    rw [length_openStreams newStream _ _ _ below]
    push_cast
    omega

theorem getOrOpenStream_error_iff (newStream : Int → T) (m : IncomingStreamsMap T) (num : Int) :
    (∃ err, getOrOpenStream newStream num m = .ok (.error err) m) ↔ m.maxStream < num := by
  by_cases tooHigh : num > m.maxStream
  · simp [getOrOpenStream, tooHigh]
  · -- below the limit the call returns a stream or nil
    unfold getOrOpenStream
    rw [if_neg tooHigh]
    refine ⟨fun ⟨err, refused⟩ => ?_, fun above => absurd above tooHigh⟩
    split_ifs at refused
    · split at refused <;> cases refused
    · cases refused

theorem getOrOpenStream_cases (newStream : Int → T) (m : IncomingStreamsMap T) (num : Int) :
    (m.maxStream < num ∧ getOrOpenStream newStream num m =
        .ok (.error ⟨"peer tried to open stream %d (current limit: %d)", [num, m.maxStream]⟩) m) ∨
      (num ≤ m.maxStream ∧
        ∃ m', getOrOpenStream newStream num m = .ok (.ok (visible (m'.streams.lookup num))) m') := by
  by_cases tooHigh : num > m.maxStream
  · exact .inl ⟨tooHigh, by simp [getOrOpenStream, tooHigh]⟩
  refine .inr ⟨by omega, ?_⟩
  by_cases old : num < m.nextStreamToOpen
  · refine ⟨m, ?_⟩
    simp only [getOrOpenStream, tooHigh, old, if_false, if_true]
    cases m.streams.lookup num <;> rfl
  · -- the streams up to `num` are opened now, none of them marked
    have opened : (openStreams newStream (num - m.nextStreamToOpen + 1).toNat m.nextStreamToOpen
        m.streams).lookup num = some ⟨newStream num, false⟩ := by
      rw [lookup_openStreams, if_pos (by omega)]
    refine ⟨{ m with
      streams := openStreams newStream (num - m.nextStreamToOpen + 1).toNat m.nextStreamToOpen m.streams
      nextStreamToOpen := num + 1 }, ?_⟩
    rw [getOrOpenStream, if_neg tooHigh, if_neg old]
    simp only [opened]
    rfl

theorem getOrOpenStream_made {m m' : IncomingStreamsMap T} (wf : Wellformed newStream m) {num : Int}
    {str : T} (run : getOrOpenStream newStream num m = .ok (.ok (some str)) m') : str = newStream num := by
  obtain ⟨r, after, afterRun, wf', -⟩ := getOrOpenStream_wellformed wf num
  rw [run] at afterRun
  obtain ⟨-, rfl⟩ := Result.ok.inj afterRun
  rcases getOrOpenStream_cases newStream m num with ⟨_, refused⟩ | ⟨_, held, returned⟩
  · rw [run] at refused
    cases refused
  · rw [run] at returned
    obtain ⟨found, rfl⟩ := Result.ok.inj returned
    unfold visible at found
    split at found
    case h_1 entry lookedUp =>
      split at found
      · cases found
      · cases found
        exact wf'.made num entry lookedUp
    case h_2 => cases found

theorem getOrOpenStream_opens (m : IncomingStreamsMap T) {num : Int} (notOpened : m.nextStreamToOpen ≤ num)
    (allowed : num ≤ m.maxStream) :
    ∃ m', getOrOpenStream newStream num m = .ok (.ok (some (newStream num))) m' ∧ m'.nextStreamToOpen = num + 1 ∧
      ∀ k, m.nextStreamToOpen ≤ k → k ≤ num → m'.streams.lookup k = some ⟨newStream k, false⟩ := by
  have opened : ∀ k, m.nextStreamToOpen ≤ k → k ≤ num → (openStreams newStream (num - m.nextStreamToOpen + 1).toNat
      m.nextStreamToOpen m.streams).lookup k = some ⟨newStream k, false⟩ := by
    intro k above below
    rw [lookup_openStreams, if_pos (by omega)]
  refine ⟨{ m with
    streams := openStreams newStream (num - m.nextStreamToOpen + 1).toNat m.nextStreamToOpen m.streams
    nextStreamToOpen := num + 1 }, ?_, rfl, opened⟩
  rw [getOrOpenStream, if_neg (by omega), if_neg (by omega)]
  simp only [opened num notOpened (le_refl _), Option.map_some]

theorem Wellformed.erase {m : IncomingStreamsMap T} (wf : Wellformed newStream m) {num : Int}
    (present : num ∈ m.streams) (accepted : num < m.nextStreamToAccept) :
    Wellformed newStream { m with streams := m.streams.erase num } ∧
      (m.streams.erase num).entries.length + 1 = m.streams.entries.length := by
  have shorter := Map.length_erase_of_mem present
  refine ⟨⟨wf.acceptFromOne, wf.acceptBelowOpen, wf.openWithinLimit, ?_, ?_, ?_, ?_,
    wf.queuedIncreasing, wf.queuedBelow⟩, shorter⟩
  · intro k member
    exact wf.opened k (AList.mem_erase.mp member).2
  · intro k atLeast below
    dsimp only at atLeast below
    exact AList.mem_erase.mpr ⟨by omega, wf.notAcceptedKept k atLeast below⟩
  · intro k entry found
    by_cases same : k = num
    · subst same
      rw [AList.lookup_erase] at found
      cases found
    · rw [AList.lookup_erase_ne same] at found
      exact wf.made k entry found
  · have := wf.counted
    dsimp only
    omega

theorem Wellformed.raiseLimit {m : IncomingStreamsMap T} (wf : Wellformed newStream m)
    (room : (m.streams.entries.length : Int) + (m.maxStream - (m.nextStreamToOpen - 1)) < m.maxNumStreams)
    (fits : m.streams.entries.length < m.maxNumStreams)
    (maxStream : Int)
    (limit : maxStream = m.nextStreamToOpen + ((m.maxNumStreams - m.streams.entries.length : Nat) : Int) - 1)
    (allowed : maxStream ≤ maxStreamCount) :
    Wellformed newStream
      { m with maxStream := maxStream, queued := m.queued ++ [⟨m.streamType, maxStream⟩] } := by
  have raised : m.maxStream < maxStream := by
    rw [limit]
    omega
  refine ⟨wf.acceptFromOne, wf.acceptBelowOpen, by dsimp only; omega, wf.opened, wf.notAcceptedKept,
    wf.made, by dsimp only; omega, ?_, ?_⟩
  · -- the new limit lies above every limit queued before
    rw [List.map_append, List.pairwise_append]
    refine ⟨wf.queuedIncreasing, List.pairwise_singleton _ _, ?_⟩
    intro a inOld b inNew
    obtain ⟨f, member, rfl⟩ := List.mem_map.mp inOld
    rw [List.map_singleton, List.mem_singleton] at inNew
    subst inNew
    have := (wf.queuedBelow f member).1
    omega
  · intro f member
    rcases List.mem_append.mp member with old | new
    · have := wf.queuedBelow f old
      exact ⟨by dsimp only; omega, this.2⟩
    · rw [List.mem_singleton.mp new]
      exact ⟨Int.le_refl _, allowed⟩

theorem deleteStream_wellformed {m : IncomingStreamsMap T} (wf : Wellformed newStream m) (num : Int) :
    ∃ r m', deleteStream num m = .ok r m' ∧ Wellformed newStream m' ∧
      m'.nextStreamToAccept = m.nextStreamToAccept ∧ m'.maxNumStreams = m.maxNumStreams := by
  cases found : m.streams.lookup num with
  | none => exact ⟨some ⟨"tried to delete unknown incoming stream %d", [num]⟩, m, by simp only [deleteStream, found],
      wf, rfl, rfl⟩
  | some entry =>
      have present : num ∈ m.streams := AList.lookup_isSome.mp (by simp [found])
      simp only [deleteStream, found]
      by_cases notAccepted : num ≥ m.nextStreamToAccept
      · rw [if_pos notAccepted]
        by_cases twice : entry.shouldDelete = true
        · exact ⟨_, m, if_pos twice, wf, rfl, rfl⟩
        · -- mark the stream; it keeps its place until it is accepted
          rw [if_neg twice]
          refine ⟨_, _, rfl, ⟨wf.acceptFromOne, wf.acceptBelowOpen, wf.openWithinLimit, ?_, ?_, ?_, ?_,
            wf.queuedIncreasing, wf.queuedBelow⟩, rfl, rfl⟩
          · intro k member
            rcases (AList.mem_insert _).mp member with rfl | old
            · exact wf.opened k present
            · exact wf.opened k old
          · intro k atLeast below
            exact (AList.mem_insert _).mpr (.inr (wf.notAcceptedKept k atLeast below))
          · intro k marked lookedUp
            by_cases same : k = num
            · subst same
              rw [AList.lookup_insert] at lookedUp
              cases lookedUp
              exact wf.made k entry found
            · rw [AList.lookup_insert_ne same] at lookedUp
              exact wf.made k marked lookedUp
          · have := wf.counted
            dsimp only
            rw [Map.length_insert_of_mem present]
            exact this
      · rw [if_neg notAccepted]
        obtain ⟨erased, shorter⟩ := wf.erase present (by omega)
        split_ifs with room allowed
        · have counted := wf.counted
          exact ⟨_, _, rfl, erased.raiseLimit (by dsimp only; omega) room _ rfl allowed, rfl, rfl⟩
        · exact ⟨_, _, rfl, erased, rfl, rfl⟩
        · exact ⟨_, _, rfl, erased, rfl, rfl⟩

theorem deleteStream_of_unaccepted {m : IncomingStreamsMap T} {num : Int} {entry : IncomingStreamEntry T}
    (found : m.streams.lookup num = some entry) (notAccepted : m.nextStreamToAccept ≤ num)
    (unmarked : entry.shouldDelete = false) :
    deleteStream num m = .ok none { m with streams := m.streams.insert num { entry with shouldDelete := true } } := by
  simp only [deleteStream, found, if_pos (show num ≥ m.nextStreamToAccept from notAccepted), unmarked,
    Bool.false_eq_true, if_false]

theorem deleteStream_of_accepted {m : IncomingStreamsMap T} {num : Int} {entry : IncomingStreamEntry T}
    (found : m.streams.lookup num = some entry) (accepted : num < m.nextStreamToAccept) :
    ∃ m', deleteStream num m = .ok none m' ∧ num ∉ m'.streams := by
  unfold deleteStream
  have gone : num ∉ m.streams.erase num := fun member => (AList.mem_erase.mp member).1 rfl
  simp only [found, if_neg (show ¬ num ≥ m.nextStreamToAccept by omega)]
  split_ifs
  · exact ⟨_, rfl, gone⟩
  · exact ⟨_, rfl, gone⟩
  · exact ⟨_, rfl, gone⟩

theorem acceptStream_of_open {m : IncomingStreamsMap T} (wf : Wellformed newStream m)
    {entry : IncomingStreamEntry T} (found : m.streams.lookup m.nextStreamToAccept = some entry) :
    ∃ m', acceptStream m = .ok (.ok (some (newStream m.nextStreamToAccept))) m' ∧ Wellformed newStream m' ∧
      m'.nextStreamToAccept = m.nextStreamToAccept + 1 ∧ m'.maxNumStreams = m.maxNumStreams ∧
      (entry.shouldDelete = true → m.nextStreamToAccept ∉ m'.streams) := by
  have present : m.nextStreamToAccept ∈ m.streams := AList.lookup_isSome.mp (by simp [found])
  have made := wf.made _ entry found
  have advanced : Wellformed newStream { m with nextStreamToAccept := m.nextStreamToAccept + 1 } :=
    ⟨by have := wf.acceptFromOne; dsimp only; omega,
      by have := wf.opened _ present; dsimp only; omega, wf.openWithinLimit, wf.opened,
      fun k atLeast below => wf.notAcceptedKept k (by dsimp only at atLeast; omega) below, wf.made,
      wf.counted, wf.queuedIncreasing, wf.queuedBelow⟩
  unfold acceptStream
  simp only [found]
  by_cases marked : entry.shouldDelete = true
  · rw [if_pos marked]
    obtain ⟨m', deleted, gone⟩ := deleteStream_of_accepted (m := { m with nextStreamToAccept := m.nextStreamToAccept + 1 })
      found (by dsimp only; omega)
    obtain ⟨r, m'', state, wf', accept, bound⟩ := deleteStream_wellformed advanced m.nextStreamToAccept
    rw [deleted] at state
    obtain ⟨-, rfl⟩ := Result.ok.inj state
    refine ⟨m', ?_, wf', accept, bound, fun _ => gone⟩
    simp only [Call.bind_apply, deleted, Call.pure_apply, made]
  · rw [if_neg marked]
    exact ⟨_, by rw [made], advanced, rfl, rfl, fun marked' => absurd marked' marked⟩

theorem acceptStream_of_unopened {m : IncomingStreamsMap T} (wf : Wellformed newStream m)
    (unopened : m.nextStreamToAccept = m.nextStreamToOpen) : acceptStream m = .ok (.ok none) m := by
  have absent : m.streams.lookup m.nextStreamToAccept = none := by
    rw [AList.lookup_eq_none]
    intro present
    have := wf.opened _ present
    omega
  simp only [acceptStream, absent]

end Invariant

/-! ## Runs of calls -/

/-- A call on the map: by the connection, for a frame of the peer's, or by the application. -/
inductive Op where
  | getOrOpenStream (num : Int)
  | deleteStream (num : Int)
  | acceptStream
deriving DecidableEq, Repr

/-- A call on the map made through the pair of the map and the streams the
application has accepted so far. -/
def onMap {α : Type} (x : Call (IncomingStreamsMap T) α) : Call (IncomingStreamsMap T × List T) α :=
  Call.focus Prod.fst (fun m s => (m, s.2)) x

/-- One call.  A `streamError` goes back to its caller and the run goes on; the
application keeps every stream `AcceptStream` hands it. -/
def call (newStream : Int → T) : Op → Call (IncomingStreamsMap T × List T) Unit
  | .getOrOpenStream num => onMap (getOrOpenStream newStream num) >>= fun _ => pure ()
  | .deleteStream num => onMap (deleteStream num) >>= fun _ => pure ()
  | .acceptStream => do
      match ← onMap acceptStream with
      | .ok (some stream) => Call.modify fun s => (s.1, s.2 ++ [stream])
      | _ => pure ()

/-- The streams numbered 1 to `n - 1`, in order. -/
def acceptedBelow (newStream : Int → T) (n : Int) : List T :=
  (List.range (n - 1).toNat).map fun i : Nat => newStream ((i : Int) + 1)

theorem acceptedBelow_succ (newStream : Int → T) {n : Int} (atLeastOne : 1 ≤ n) :
    acceptedBelow newStream (n + 1) = acceptedBelow newStream n ++ [newStream n] := by
  unfold acceptedBelow
  rw [show (n + 1 - 1).toNat = (n - 1).toNat + 1 by omega, List.range_succ, List.map_append,
    List.map_singleton, show ((n - 1).toNat : Int) + 1 = n by omega]

/-- What holds between calls: the map is well-formed, keeps its bound, and the
application holds the streams below the next one to accept. -/
def Holds (newStream : Int → T) (maxStreams : Nat) (s : IncomingStreamsMap T × List T) : Prop :=
  Wellformed newStream s.1 ∧ s.1.maxNumStreams = maxStreams ∧
    s.2 = acceptedBelow newStream s.1.nextStreamToAccept

theorem onMap_of_ok {α : Type} {x : Call (IncomingStreamsMap T) α} {s : IncomingStreamsMap T × List T}
    {a : α} {m' : IncomingStreamsMap T} (run : x s.1 = .ok a m') : onMap x s = .ok a (m', s.2) := by
  simp only [onMap, Call.focus_apply, run]

theorem call_holds {newStream : Int → T} {maxStreams : Nat} {s : IncomingStreamsMap T × List T}
    (holds : Holds newStream maxStreams s) :
    ∀ op, ∃ s', call newStream op s = .ok () s' ∧ Holds newStream maxStreams s'
  | .getOrOpenStream num => by
      obtain ⟨r, m', run, wf', accept, bound, -, -⟩ := getOrOpenStream_wellformed holds.1 num
      refine ⟨(m', s.2), ?_, wf', bound.trans holds.2.1, by rw [accept]; exact holds.2.2⟩
      simp only [call, Call.bind_apply, onMap_of_ok run, Call.pure_apply]
  | .deleteStream num => by
      obtain ⟨r, m', run, wf', accept, bound⟩ := deleteStream_wellformed holds.1 num
      refine ⟨(m', s.2), ?_, wf', bound.trans holds.2.1, by rw [accept]; exact holds.2.2⟩
      simp only [call, Call.bind_apply, onMap_of_ok run, Call.pure_apply]
  | .acceptStream => by
      cases found : s.1.streams.lookup s.1.nextStreamToAccept with
      | none =>
          have waits : acceptStream s.1 = .ok (.ok none) s.1 := by simp only [acceptStream, found]
          refine ⟨s, ?_, holds⟩
          simp [call, onMap_of_ok waits]
      | some entry =>
          obtain ⟨m', accepted, wf', next, bound, -⟩ := acceptStream_of_open holds.1 found
          refine ⟨(m', s.2 ++ [newStream s.1.nextStreamToAccept]), ?_, wf', bound.trans holds.2.1, ?_⟩
          · simp [call, onMap_of_ok accepted]
          · rw [next, acceptedBelow_succ newStream holds.1.acceptFromOne, holds.2.2]

/-- Every run of calls on a new map: `GetOrOpenStream` refuses exactly the
streams above the limit, the map never holds more than `maxNumStreams`
streams, and the MAX_STREAMS frames queued carry strictly increasing limits up
to `MaxStreamCount`.  `GetOrOpenStream` opens every stream up to a number
within the limit and returns the stream made for the number; the application
has accepted the streams 1, 2, 3, ... in order, and `AcceptStream` hands out
the next stream once it is open and waits while it is not.  `DeleteStream`
marks a stream not accepted yet, which `AcceptStream` still hands out and
then removes, and removes an accepted stream at once. -/
theorem incomingStreamsMap_run (newStream : Int → T) (streamType : StreamType) (maxStreams : Nat)
    (ops : List Op) :
    ∃ m accepted, Call.forEach (call newStream) ops (newIncomingStreamsMap streamType maxStreams, []) =
        .ok () (m, accepted) ∧
      (∀ num, (∃ err, getOrOpenStream newStream num m = .ok (.error err) m) ↔ m.maxStream < num) ∧
      m.streams.entries.length ≤ maxStreams ∧
      (m.queued.map (·.maxStreamNum)).Pairwise (· < ·) ∧
      (∀ f ∈ m.queued, f.maxStreamNum ≤ maxStreamCount) ∧
      (∀ num, m.nextStreamToOpen ≤ num → num ≤ m.maxStream →
        ∃ m', getOrOpenStream newStream num m = .ok (.ok (some (newStream num))) m' ∧
          m'.nextStreamToOpen = num + 1 ∧
          ∀ k, m.nextStreamToOpen ≤ k → k ≤ num → m'.streams.lookup k = some ⟨newStream k, false⟩) ∧
      (∀ num str m', getOrOpenStream newStream num m = .ok (.ok (some str)) m' → str = newStream num) ∧
      accepted = acceptedBelow newStream m.nextStreamToAccept ∧
      (m.nextStreamToAccept < m.nextStreamToOpen →
        ∃ m', acceptStream m = .ok (.ok (some (newStream m.nextStreamToAccept))) m' ∧
          m'.nextStreamToAccept = m.nextStreamToAccept + 1) ∧
      (m.nextStreamToAccept = m.nextStreamToOpen → acceptStream m = .ok (.ok none) m) ∧
      (∀ num entry, m.streams.lookup num = some entry → m.nextStreamToAccept ≤ num → entry.shouldDelete = false →
        deleteStream num m = .ok none { m with streams := m.streams.insert num { entry with shouldDelete := true } }) ∧
      (∀ entry, m.streams.lookup m.nextStreamToAccept = some entry → entry.shouldDelete = true →
        ∃ m', acceptStream m = .ok (.ok (some (newStream m.nextStreamToAccept))) m' ∧
          m.nextStreamToAccept ∉ m'.streams) ∧
      ∀ num entry, m.streams.lookup num = some entry → num < m.nextStreamToAccept →
        ∃ m', deleteStream num m = .ok none m' ∧ num ∉ m'.streams := by
  have start : Holds newStream maxStreams
      ((newIncomingStreamsMap streamType maxStreams : IncomingStreamsMap T), []) :=
    ⟨wellformed_newIncomingStreamsMap streamType maxStreams, rfl,
      by simp [acceptedBelow, newIncomingStreamsMap]⟩
  obtain ⟨⟨m, accepted⟩, run, wf, sameBound, log⟩ :=
    Call.forEach_ok_of_invariant (fun _ => Holds newStream maxStreams) ops start
      (fun _ _ t holds => call_holds holds _)
  refine ⟨m, accepted, run, getOrOpenStream_error_iff newStream m, sameBound ▸ wf.length_le,
    wf.queuedIncreasing, fun f member => (wf.queuedBelow f member).2,
    fun num notOpened allowed => getOrOpenStream_opens m notOpened allowed,
    fun num str m' opened => getOrOpenStream_made wf opened, log, ?_, acceptStream_of_unopened wf,
    fun num entry found notAccepted unmarked => deleteStream_of_unaccepted found notAccepted unmarked, ?_,
    fun num entry found accepted => deleteStream_of_accepted found accepted⟩
  · intro opened
    obtain ⟨entry, found⟩ := Option.isSome_iff_exists.mp
      (AList.lookup_isSome.mpr (wf.notAcceptedKept _ (le_refl _) opened))
    obtain ⟨m', accept, -, next, -⟩ := acceptStream_of_open wf found
    exact ⟨m', accept, next⟩
  · intro entry found marked
    obtain ⟨m', accept, -, -, -, gone⟩ := acceptStream_of_open wf found
    exact ⟨m', accept, gone marked⟩

end IncomingStreamsMap

end QuicFec
