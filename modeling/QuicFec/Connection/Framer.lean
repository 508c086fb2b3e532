import QuicFec.Stream.SendStream
import QuicFec.Utils.RingBuffer
import QuicFec.Wire.Frame

/-! # The framer

`framer.go`: the control frames the connection queues, and the send streams
that said they have data, which take turns in filling a packet.  A stream that
calls `onHasStreamData` joins the back of `streamQueue` unless it is queued
(`activeStreams` is the set of the queued IDs); `AppendStreamFrames` lets the
streams at the front pop one frame each while `MinStreamFrameSize` bytes are
left, and puts those with more data back at the end.  The last STREAM frame
of a packet goes without its length field, so each stream may count those
bytes into its budget.

`AppendStreamFrames` runs on the streams its `streamGetter` finds by ID and on
the connection's send flow controller, which every stream charges
(`Sending`).  The mutexes are not modeled: each call runs with them held.

The framer keeps its queue and its set in step (`Scheduled`), so that the loop
of `AppendStreamFrames` never pops an empty queue.  On streams that can be
popped (`SendStream.Poppable`) and a packet no larger than a packet buffer it
hands each stream a budget the stream can work with, so no stream panics; the
length it reports is exactly that of the frames it appended, and within the
packet (`appendStreamFrames_fits`).  The streams take their turns in order:
those popped leave the front of the queue, and those with more data join its
back in the order they were popped (`appendStreamFrames_roundRobin`). -/
set_option autoImplicit false

namespace QuicFec

open Go QuicFec.Protocol QuicFec.Wire QuicFec.Flowcontrol QuicFec.Utils

def maxPathResponses : Nat := 256

def maxControlFrames : Nat := 16 <<< 10

/-- `framerI`: the IDs of the streams with data, as a set (`activeStreams`)
and in the order of their turns (`streamQueue`), and the queued control and
PATH_RESPONSE frames. -/
structure Framer where
  activeStreams : AList fun _ : Nat => Unit
  streamQueue : RingBuffer Nat
  controlFrames : List Frame
  pathResponses : List (Vector UInt8 8)
  queuedTooManyControlFrames : Bool
deriving DecidableEq

namespace Framer

def newFramer : Framer := ⟨∅, RingBuffer.zero, [], [], false⟩

def hasData (f : Framer) : Bool :=
  !f.streamQueue.empty || !f.controlFrames.isEmpty || !f.pathResponses.isEmpty

/-- `QueueControlFrame`: at most `maxPathResponses` PATH_RESPONSE frames wait,
and past `maxControlFrames` other frames the frame is dropped and the
connection told (`QueuedTooManyControlFrames`). -/
def queueControlFrame (frame : Frame) (f : Framer) : Framer :=
  match frame with
  | .pathResponse data =>
    if f.pathResponses.length ≥ maxPathResponses then f else { f with pathResponses := f.pathResponses ++ [data] }
  | _ =>
    if f.controlFrames.length ≥ maxControlFrames then { f with queuedTooManyControlFrames := true }
    else { f with controlFrames := f.controlFrames ++ [frame] }

/-- The loop of `AppendControlFrames` over the queue, last frame first: the
frames that fit after `length` bytes, the length then, and the frames left,
last first. -/
def popControlFrames (maxLen : Int) : List Frame → Int → List Frame × Int × List Frame
  | [], length => ([], length, [])
  | frame :: rest, length =>
    if length + frame.length > maxLen then ([], length, frame :: rest)
    else
      let (taken, length, left) := popControlFrames maxLen rest (length + frame.length)
      (frame :: taken, length, left)

/-- `AppendControlFrames`: one PATH_RESPONSE first, if it fits, then the
control frames from the back of the queue while they fit. -/
def appendControlFrames (frames : List Ackhandler.Frame) (maxLen : Int) :
    Call Framer (List Ackhandler.Frame × Int) := fun f =>
  let (frames, length, pathResponses) : List Ackhandler.Frame × Int × List (Vector UInt8 8) :=
    match f.pathResponses with
    | data :: rest =>
      if ((Frame.pathResponse data).length : Int) ≤ maxLen then
        (frames ++ [⟨.pathResponse data, none⟩], (Frame.pathResponse data).length, rest)
      else (frames, 0, f.pathResponses)
    | [] => (frames, 0, [])
  let (taken, length, left) := popControlFrames maxLen f.controlFrames.reverse length
  .ok (frames ++ taken.map fun frame => ⟨frame, none⟩, length) { f with pathResponses, controlFrames := left.reverse }

/-- Run `x` on the stream queue. -/
def onQueue {α : Type} (x : Call (RingBuffer Nat) α) : Call Framer α :=
  Call.focus (·.streamQueue) (fun q f => { f with streamQueue := q }) x

def addActiveStream (id : Nat) : Call Framer Unit := do
  if id ∉ (← Call.get).activeStreams then
    onQueue (RingBuffer.pushBack id)
    Call.modify fun f => { f with activeStreams := f.activeStreams.insert id () }

/-- The frame types `Handle0RTTRejection` does not expect in 0-RTT:
MAX_DATA, MAX_STREAM_DATA and MAX_STREAMS. -/
def isMaxFrame : Frame → Bool
  | .control frameType _ => frameType == 0x10 || frameType == 0x11 || frameType == 0x12 || frameType == 0x13
  | _ => false

/-- The frame types a rejection of 0-RTT drops: DATA_BLOCKED,
STREAM_DATA_BLOCKED and STREAMS_BLOCKED. -/
def isBlockedFrame : Frame → Bool
  | .control frameType _ => frameType == 0x14 || frameType == 0x15 || frameType == 0x16 || frameType == 0x17
  | _ => false

/-- The loop of `Handle0RTTRejection` over the control frames: the frames it
keeps, in order, or the error at the first MAX_DATA, MAX_STREAM_DATA or
MAX_STREAMS frame together with those kept before it. -/
def keepControlFrames : List Frame → Except (List Frame) (List Frame)
  | [] => .ok []
  | frame :: rest =>
    if isMaxFrame frame then .error []
    else
      let kept := if isBlockedFrame frame then [] else [frame]
      match keepControlFrames rest with
      | .ok rest => .ok (kept ++ rest)
      | .error rest => .error (kept ++ rest)

/-- `Handle0RTTRejection`'s error. -/
def unexpectedMaxFrame : String := "didn't expect MAX_DATA / MAX_STREAM_DATA / MAX_STREAMS frame to be sent in 0-RTT"

/-- `Handle0RTTRejection`: no stream stays active, and the control frames lose
the blocked frames.  At an unexpected frame it returns with the frames kept so
far moved to the front of the slice and the others left in place. -/
def handle0RTTRejection : Call Framer Unit := do
  onQueue RingBuffer.clear
  let f ← Call.get
  let f := { f with activeStreams := ∅ }
  match keepControlFrames f.controlFrames with
  | .ok kept => Call.set { f with controlFrames := kept }
  | .error kept =>
    Call.set { f with controlFrames := kept ++ f.controlFrames.drop kept.length }
    Call.fail unexpectedMaxFrame

end Framer

/-- What `AppendStreamFrames` runs on: the framer, the send streams its
`streamGetter` finds by ID, and the connection's send flow controller, which
each stream's `popStreamFrame` charges. -/
structure Sending where
  framer : Framer
  streams : AList fun _ : Nat => SendStream
  connection : SendFlowController

namespace Sending

/-- Run `x` on the framer. -/
def onFramer {α : Type} (x : Call Framer α) : Call Sending α :=
  Call.focus (·.framer) (fun f sys => { sys with framer := f }) x

/-- Run `x` on the stream `str` the streams hold under `id`, and on the
connection's flow controller. -/
def onStream {α : Type} (id : Nat) (str : SendStream) (x : Call (SendStream × SendFlowController) α) :
    Call Sending α :=
  Call.focus (fun sys => (str, sys.connection))
    (fun sc sys => { sys with streams := sys.streams.insert id sc.1, connection := sc.2 }) x

/-- The connection's `onHasStreamData`: the framer schedules the stream
(`scheduleSending` only wakes the send loop). -/
def onHasStreamData (id : Nat) : Call Sending Unit := onFramer (Framer.addActiveStream id)

/-- The application's `Write` of `p` on the send stream `id`, up to the first
time it waits, with the connection's `onHasStreamData` when the stream calls
it. -/
def write (id : Nat) (p : List UInt8) : Call Sending WriteOutcome := do
  match (← Call.get).streams.lookup id with
  | none => Call.panic nilDereferenceMessage
  | some str =>
    let (outcome, str') := str.write p
    Call.modify fun sys => { sys with streams := sys.streams.insert id str' }
    if str'.sender.length > str.sender.length then onHasStreamData str.streamID
    return outcome

/-- `delete(f.activeStreams, id)`. -/
def deactivate (id : Nat) : Call Sending Unit :=
  Call.modify fun sys => { sys with framer := { sys.framer with activeStreams := sys.framer.activeStreams.erase id } }

/-- The loop of `AppendStreamFrames`, for `n` more of the streams queued when
it began: the frames appended and their length so far. -/
def appendStreamFramesLoop (maxLen : Int) :
    Nat → List Ackhandler.StreamFrame → Int → Call Sending (List Ackhandler.StreamFrame × Int)
  | 0, frames, length => pure (frames, length)
  | n + 1, frames, length => do
    if (minStreamFrameSize : Int) + length > maxLen then return (frames, length)
    let id ← onFramer (Framer.onQueue RingBuffer.popFront)
    match (← Call.get).streams.lookup id with
    | none =>
      -- the stream completed after it said it had data
      deactivate id
      appendStreamFramesLoop maxLen n frames length
    | some str =>
      -- the last frame loses its length field: the stream may count those bytes in
      let remainingLen := (maxLen - length).toNat
      let lenField ← Quicvarint.len remainingLen
      let (frame?, hasMoreData) ← onStream id str (SendStream.popStreamFrame (remainingLen + lenField))
      if hasMoreData then onFramer (Framer.onQueue (RingBuffer.pushBack id)) else deactivate id
      match frame? with
      | none => appendStreamFramesLoop maxLen n frames length
      | some frame => appendStreamFramesLoop maxLen n (frames ++ [⟨frame, some (.sendStream id)⟩]) (length + frame.length)

/-- The last STREAM frame appended goes without its length field. -/
def dropLengthField (startLen : Nat) (frames : List Ackhandler.StreamFrame) (length : Int) :
    List Ackhandler.StreamFrame × Int :=
  match frames.getLast? with
  | some last =>
    if startLen < frames.length then
      let last' := { last with frame := { last.frame with dataLenPresent := false } }
      (frames.dropLast ++ [last'], length + last'.frame.length - last.frame.length)
    else (frames, length)
  | none => (frames, length)

def appendStreamFrames (frames : List Ackhandler.StreamFrame) (maxLen : Int) :
    Call Sending (List Ackhandler.StreamFrame × Int) := do
  let numActiveStreams := (← Call.get).framer.streamQueue.len
  let (frames', length) ← appendStreamFramesLoop maxLen numActiveStreams frames 0
  return dropLengthField frames.length frames' length

end Sending

/-! ## The queue and the set in step -/

namespace Framer

/-- The framer's queue is a valid ring buffer holding each stream ID once,
and `activeStreams` is the set of the queued IDs. -/
structure Scheduled (f : Framer) : Prop where
  valid : f.streamQueue.Valid
  nodup : f.streamQueue.contents.Nodup
  active : ∀ id, id ∈ f.activeStreams ↔ id ∈ f.streamQueue.contents

theorem scheduled_newFramer : newFramer.Scheduled := by
  obtain ⟨valid, empty⟩ := RingBuffer.startsEmpty ([] : List Nat)
  exact ⟨valid, by rw [newFramer, RingBuffer.zero, empty]; exact List.nodup_nil,
    fun id => by simp [newFramer, RingBuffer.zero, empty]⟩

theorem Scheduled.of_eq {f f' : Framer} (sched : f.Scheduled) (queue : f'.streamQueue = f.streamQueue)
    (active : f'.activeStreams = f.activeStreams) : f'.Scheduled := by
  obtain ⟨valid, nodup, inQueue⟩ := sched
  exact ⟨queue ▸ valid, queue ▸ nodup, fun id => by rw [queue, active]; exact inQueue id⟩

@[simp] theorem queueControlFrame_streamQueue (frame : Frame) (f : Framer) :
    (queueControlFrame frame f).streamQueue = f.streamQueue := by
  unfold queueControlFrame
  split <;> split_ifs <;> rfl

@[simp] theorem queueControlFrame_activeStreams (frame : Frame) (f : Framer) :
    (queueControlFrame frame f).activeStreams = f.activeStreams := by
  unfold queueControlFrame
  split <;> split_ifs <;> rfl

theorem popControlFrames_spec (maxLen : Int) : ∀ (fs : List Frame) (length : Int),
    ∃ taken length' left, popControlFrames maxLen fs length = (taken, length', left) ∧
      length' = length + (taken.map fun f => (f.length : Int)).sum ∧
      (taken ≠ [] ∨ length ≤ maxLen → length' ≤ maxLen)
  | [], length => ⟨[], length, [], rfl, by simp, fun | .inl nonempty => absurd rfl nonempty | .inr fits => fits⟩
  | frame :: rest, length => by
    by_cases tooLong : length + frame.length > maxLen
    · refine ⟨[], length, frame :: rest, by simp [popControlFrames, tooLong], by simp, ?_⟩
      rintro (nonempty | fits)
      · exact absurd rfl nonempty
      · exact fits
    · obtain ⟨taken, length', left, popped, total, fits⟩ := popControlFrames_spec maxLen rest (length + frame.length)
      refine ⟨frame :: taken, length', left, by simp [popControlFrames, tooLong, popped], ?_,
        fun _ => fits (.inr (by omega))⟩
      rw [total, List.map_cons, List.sum_cons, Int.add_assoc]

theorem appendControlFrames_spec (frames : List Ackhandler.Frame) (maxLen : Int) (f : Framer) :
    ∃ new length f', appendControlFrames frames maxLen f = .ok (frames ++ new, length) f' ∧
      f'.streamQueue = f.streamQueue ∧ f'.activeStreams = f.activeStreams ∧
      length = (new.map fun g => (g.frame.length : Int)).sum ∧ (new ≠ [] → length ≤ maxLen) ∧
      ∀ g ∈ new, g.handler = none := by
  have noHandlers : ∀ (taken : List Frame), ∀ g ∈ taken.map (fun frame => (⟨frame, none⟩ : Ackhandler.Frame)),
      g.handler = none := fun taken g member => by
    obtain ⟨frame, -, rfl⟩ := List.mem_map.mp member
    rfl
  obtain ⟨taken, length', left, popped, total, within⟩ := popControlFrames_spec maxLen f.controlFrames.reverse 0
  have controlOnly (run : appendControlFrames frames maxLen f =
      .ok (frames ++ taken.map fun frame => ⟨frame, none⟩, length') { f with controlFrames := left.reverse }) :
      ∃ new length f', appendControlFrames frames maxLen f = .ok (frames ++ new, length) f' ∧
        f'.streamQueue = f.streamQueue ∧ f'.activeStreams = f.activeStreams ∧
        length = (new.map fun g => (g.frame.length : Int)).sum ∧ (new ≠ [] → length ≤ maxLen) ∧
        ∀ g ∈ new, g.handler = none :=
    ⟨_, length', _, run, rfl, rfl, by simp [total, Function.comp_def],
      fun nonempty => within (.inl (by simpa using nonempty)), noHandlers taken⟩
  cases paths : f.pathResponses with
  | nil => exact controlOnly (by simp [appendControlFrames, popped, paths])
  | cons data rest =>
    by_cases fits : ((Frame.pathResponse data).length : Int) ≤ maxLen
    · obtain ⟨taken, length', left, popped, total, within⟩ :=
        popControlFrames_spec maxLen f.controlFrames.reverse (Frame.pathResponse data).length
      refine ⟨⟨.pathResponse data, none⟩ :: taken.map fun frame => ⟨frame, none⟩, length',
        { f with pathResponses := rest, controlFrames := left.reverse }, ?_, rfl, rfl, ?_,
        fun _ => within (.inr fits), fun g member => ?_⟩
      · simp [appendControlFrames, paths, fits, popped]
      · simp [total, Function.comp_def]
      · rcases List.mem_cons.mp member with rfl | inTaken
        · rfl
        · exact noHandlers taken g inTaken
    · exact controlOnly (by simp [appendControlFrames, fits, popped, paths])

theorem Scheduled.addActiveStream {f : Framer} (sched : f.Scheduled) (id : Nat) :
    ∃ f', addActiveStream id f = .ok () f' ∧ f'.Scheduled ∧
      f'.streamQueue.contents = f.streamQueue.contents ++ (if id ∈ f.streamQueue.contents then [] else [id]) := by
  by_cases queued : id ∈ f.streamQueue.contents
  · have present : id ∈ f.activeStreams := (sched.active id).mpr queued
    refine ⟨f, ?_, sched, by simp [queued]⟩
    unfold Framer.addActiveStream
    simp [present]
  · have absent : id ∉ f.activeStreams := fun present => queued ((sched.active id).mp present)
    obtain ⟨q, pushed, valid, contents⟩ := RingBuffer.pushBack_spec sched.valid id
    refine ⟨{ f with streamQueue := q, activeStreams := f.activeStreams.insert id () }, ?_, ⟨valid, ?_, ?_⟩,
      by simp [contents, queued]⟩
    · unfold Framer.addActiveStream
      simp [absent, onQueue, pushed]
    · rw [contents]
      exact sched.nodup.append (List.nodup_singleton id) (by simpa using queued)
    · intro id'
      rw [contents, AList.mem_insert, sched.active id', List.mem_append, List.mem_singleton, or_comm]

theorem Scheduled.handle0RTTRejection (f : Framer) :
    ∃ f', (handle0RTTRejection f).state? = some f' ∧ f'.Scheduled ∧ f'.streamQueue.contents = [] := by
  obtain ⟨cleared, valid, empty⟩ := RingBuffer.clear_spec f.streamQueue
  generalize (⟨List.replicate f.streamQueue.ring.length default, 0, 0, false⟩ : RingBuffer Nat) = q
    at cleared valid empty
  have onCleared : onQueue RingBuffer.clear f = .ok () { f with streamQueue := q } := by
    simp [onQueue, cleared]
  have sched : ({ f with streamQueue := q, activeStreams := ∅ } : Framer).Scheduled :=
    ⟨valid, by rw [empty]; exact List.nodup_nil, fun id => by simp [empty]⟩
  unfold Framer.handle0RTTRejection
  rw [Call.bind_of_ok onCleared]
  cases keep : keepControlFrames f.controlFrames with
  | ok kept =>
    exact ⟨{ f with streamQueue := q, activeStreams := ∅, controlFrames := kept },
      by simp [keep, Result.state?], sched.of_eq rfl rfl, empty⟩
  | error kept =>
    exact ⟨{ f with streamQueue := q, activeStreams := ∅, controlFrames := kept ++ f.controlFrames.drop kept.length },
      by simp [keep, Result.state?], sched.of_eq rfl rfl, empty⟩

theorem Scheduled.requeue {f : Framer} (sched : f.Scheduled) {id : Nat} {rest : List Nat}
    (queued : f.streamQueue.contents = id :: rest) :
    ∃ q, RingBuffer.pushBack id (RingBuffer.dropHead f.streamQueue) = .ok () q ∧
      ({ f with streamQueue := q } : Framer).Scheduled ∧ q.contents = rest ++ [id] := by
  obtain ⟨-, dropped, droppedContents⟩ := RingBuffer.popFront_spec sched.valid queued
  obtain ⟨q, pushed, valid, contents⟩ := RingBuffer.pushBack_spec dropped id
  obtain ⟨fresh, restNodup⟩ := List.nodup_cons.mp (queued ▸ sched.nodup)
  refine ⟨q, pushed, ⟨valid, ?_, fun id' => ?_⟩, by rw [contents, droppedContents]⟩
  · rw [contents, droppedContents]
    exact restNodup.append (List.nodup_singleton id) (by simpa using fresh)
  · rw [contents, droppedContents, sched.active id', queued, List.mem_append, List.mem_singleton, List.mem_cons,
      or_comm]

theorem Scheduled.retire {f : Framer} (sched : f.Scheduled) {id : Nat} {rest : List Nat}
    (queued : f.streamQueue.contents = id :: rest) :
    ({ f with streamQueue := RingBuffer.dropHead f.streamQueue, activeStreams := f.activeStreams.erase id } :
      Framer).Scheduled ∧ (RingBuffer.dropHead f.streamQueue).contents = rest := by
  obtain ⟨-, dropped, droppedContents⟩ := RingBuffer.popFront_spec sched.valid queued
  obtain ⟨fresh, restNodup⟩ := List.nodup_cons.mp (queued ▸ sched.nodup)
  refine ⟨⟨dropped, ?_, fun id' => ?_⟩, droppedContents⟩
  · rw [droppedContents]
    exact restNodup
  · rw [AList.mem_erase, sched.active id', queued, droppedContents, List.mem_cons]
    constructor
    · rintro ⟨other, rfl | inRest⟩
      · exact absurd rfl other
      · exact inRest
    · intro inRest
      exact ⟨fun same => fresh (same ▸ inRest), .inr inRest⟩

end Framer

/-! ## The streams the framer pops -/

namespace Sending

/-- What `AppendStreamFrames` needs: the framer keeps its queue and its set
in step, every stream it finds can be popped, and the connection's flow
controller is within its window. -/
structure Ready (sys : Sending) : Prop where
  scheduled : sys.framer.Scheduled
  poppable : ∀ id str, sys.streams.lookup id = some str → str.Poppable
  within : sys.connection.Within

theorem Ready.insert {sys : Sending} (ready : sys.Ready) (id : Nat) {str : SendStream} (poppable : str.Poppable)
    (framer : Framer) (sched : framer.Scheduled) (connection : SendFlowController) (within : connection.Within) :
    ({ framer, streams := sys.streams.insert id str, connection } : Sending).Ready := by
  refine ⟨sched, fun id' str' found => ?_, within⟩
  by_cases same : id' = id
  · subst same
    rw [AList.lookup_insert, Option.some.injEq] at found
    exact found ▸ poppable
  · rw [AList.lookup_insert_ne same] at found
    exact ready.poppable id' str' found

theorem Ready.onHasStreamData {sys : Sending} (ready : sys.Ready) (id : Nat) :
    ∃ sys', onHasStreamData id sys = .ok () sys' ∧ sys'.Ready ∧ sys'.streams = sys.streams := by
  obtain ⟨f, added, sched, -⟩ := ready.scheduled.addActiveStream id
  exact ⟨{ sys with framer := f }, by simp [Sending.onHasStreamData, onFramer, added],
    ⟨sched, ready.poppable, ready.within⟩, rfl⟩

theorem Ready.write {sys : Sending} (ready : sys.Ready) {id : Nat} (present : id ∈ sys.streams) (p : List UInt8) :
    ∃ outcome sys', write id p sys = .ok outcome sys' ∧ sys'.Ready ∧ (∀ k, k ∈ sys'.streams ↔ k ∈ sys.streams) := by
  obtain ⟨str, found⟩ := Option.isSome_iff_exists.mp (AList.lookup_isSome.mpr present)
  obtain ⟨poppable, -, -⟩ := (ready.poppable id str found).write p
  have stored := ready.insert id poppable sys.framer ready.scheduled sys.connection ready.within
  have keys : ∀ k, k ∈ sys.streams.insert id (str.write p).2 ↔ k ∈ sys.streams := fun k => by
    rw [AList.mem_insert]
    exact ⟨fun | .inl rfl => present | .inr other => other, .inr⟩
  obtain ⟨sys', notified, ready', same⟩ := stored.onHasStreamData str.streamID
  unfold Sending.write
  by_cases grew : (str.write p).2.sender.length > str.sender.length
  · refine ⟨(str.write p).1, sys', ?_, ready', fun k => same ▸ keys k⟩
    simp only [Call.bind_apply, Call.get_apply, found, Call.modify_apply, grew, if_true]
    rw [notified]
    rfl
  · refine ⟨(str.write p).1, _, ?_, stored, keys⟩
    simp only [Call.bind_apply, Call.get_apply, found, Call.modify_apply, grew, if_false]
    rfl

/-- A write keeps the system ready, or dereferences the nil stream of an ID
the streams do not hold. -/
theorem Ready.write_okOrPanic {sys : Sending} (ready : sys.Ready) (id : Nat) (p : List UInt8) :
    (Sending.write id p sys).OkOrPanic fun _ sys' => sys'.Ready := by
  by_cases present : id ∈ sys.streams
  · obtain ⟨outcome, sys', written, ready', -⟩ := ready.write present p
    rw [written]
    exact ready'
  · have missing : sys.streams.lookup id = none := AList.lookup_eq_none.mpr present
    unfold Sending.write
    simp only [Call.bind_apply, Call.get_apply, missing, Call.panic_apply, Call.okOrPanic_panic]

/-- What one turn of the loop of `AppendStreamFrames` leaves, from `sys` with
`id` at the front of the queue and `rest` behind it, after `length` of
`maxLen` bytes: a ready system with the same streams, the queue `rest` with
`id` back at its end if it has more data, and at most one frame of that
stream, which with its length field fits what was left and the two bytes of
the field. -/
structure Turn (maxLen length : Int) (sys : Sending) (id : Nat) (rest requeued : List Nat)
    (new : List Ackhandler.StreamFrame) (sys' : Sending) : Prop where
  ready : sys'.Ready
  keys : ∀ k, k ∈ sys'.streams ↔ k ∈ sys.streams
  queue : sys'.framer.streamQueue.contents = rest ++ requeued
  requeued : requeued.Sublist [id]
  handlers : (new.map (·.handler)).Sublist [some (.sendStream id)]
  fits : ∀ f ∈ new, f.frame.length ≤ maxLen - length + 2 ∧ f.frame.dataLenPresent = true

theorem budget_of_remaining {remainingLen : Nat} (room : minStreamFrameSize ≤ remainingLen)
    (small : remainingLen ≤ maxPacketBufferSize) :
    Quicvarint.size remainingLen = 2 ∧ SendStream.FramerBudget (remainingLen + 2) := by
  unfold minStreamFrameSize at room
  unfold maxPacketBufferSize at small
  refine ⟨?_, ⟨by unfold minStreamFrameSize; omega, by unfold maxPacketBufferSize; omega⟩⟩
  unfold Quicvarint.size Quicvarint.maxVarInt1 Quicvarint.maxVarInt2
  split_ifs <;> omega

/-- The system after `PopFront` took the stream at the front of the queue. -/
def popped (sys : Sending) : Sending :=
  { sys with framer := { sys.framer with streamQueue := RingBuffer.dropHead sys.framer.streamQueue } }

@[simp] theorem popped_streams (sys : Sending) : sys.popped.streams = sys.streams := rfl

@[simp] theorem popped_connection (sys : Sending) : sys.popped.connection = sys.connection := rfl

theorem Ready.popFront {sys : Sending} (ready : sys.Ready) {id : Nat} {rest : List Nat}
    (queue : sys.framer.streamQueue.contents = id :: rest) :
    onFramer (Framer.onQueue RingBuffer.popFront) sys = .ok id sys.popped := by
  obtain ⟨popFront, -, -⟩ := RingBuffer.popFront_spec ready.scheduled.valid queue
  simp [onFramer, Framer.onQueue, popFront, popped]

theorem Ready.turn_found {sys : Sending} (ready : sys.Ready) {maxLen : Int} {id : Nat} {rest : List Nat}
    (queue : sys.framer.streamQueue.contents = id :: rest) {str : SendStream}
    (found : sys.streams.lookup id = some str) {length : Int} (started : 0 ≤ length)
    (room : (minStreamFrameSize : Int) + length ≤ maxLen) (small : maxLen ≤ maxPacketBufferSize)
    (n : Nat) (frames : List Ackhandler.StreamFrame) :
    ∃ requeued new sys', Turn maxLen length sys id rest requeued new sys' ∧
      appendStreamFramesLoop maxLen (n + 1) frames length sys =
        appendStreamFramesLoop maxLen n (frames ++ new) (length + (new.map fun f => (f.frame.length : Int)).sum)
          sys' := by
  rw [appendStreamFramesLoop]
  simp only [show ¬ ((minStreamFrameSize : Int) + length > maxLen) by omega, if_false, Call.bind_apply,
    ready.popFront queue, Call.get_apply, popped_streams, found]
  set remainingLen := (maxLen - length).toNat with remaining
  have remainingRoom : minStreamFrameSize ≤ remainingLen := by omega
  have remainingSmall : remainingLen ≤ maxPacketBufferSize := by omega
  obtain ⟨two, budget⟩ := budget_of_remaining remainingRoom remainingSmall
  obtain ⟨f?, hasMore, s', conn', popStreamFrame, poppable, within, fits⟩ :=
    @SendStream.popStreamFrame_poppable (remainingLen + 2) str sys.connection budget (ready.poppable id str found)
  have keys : ∀ k, k ∈ sys.streams.insert id s' ↔ k ∈ sys.streams := fun k => by
    rw [AList.mem_insert]
    exact ⟨fun | .inl same => AList.lookup_isSome.mp (by rw [same, found]; rfl) | .inr other => other, .inr⟩
  obtain ⟨framer, requeued, ended, sched, queued, requeuedSub⟩ : ∃ framer requeued,
      (∀ k : Unit → Call Sending (List Ackhandler.StreamFrame × Int),
        (if hasMore then onFramer (Framer.onQueue (RingBuffer.pushBack id)) >>= k else deactivate id >>= k)
          (⟨sys.popped.framer, sys.streams.insert id s', conn'⟩ : Sending) =
          k () ⟨framer, sys.streams.insert id s', conn'⟩) ∧
      framer.Scheduled ∧ framer.streamQueue.contents = rest ++ requeued ∧ requeued.Sublist [id] := by
    cases hasMore with
    | true =>
      obtain ⟨q, pushed, sched, contents⟩ := ready.scheduled.requeue queue
      exact ⟨{ sys.framer with streamQueue := q }, [id],
        fun k => by simp [onFramer, Framer.onQueue, popped, pushed], sched, contents, List.Sublist.refl _⟩
    | false =>
      obtain ⟨sched, contents⟩ := ready.scheduled.retire queue
      exact ⟨_, [], fun k => rfl, sched, by rw [List.append_nil]; exact contents, List.nil_sublist _⟩
  have ready' := ready.insert id poppable framer sched conn' (within ready.within)
  have lenField : (Quicvarint.len remainingLen : Call Sending Nat) sys.popped = .ok 2 sys.popped := by
    rw [Quicvarint.len_of_le (by unfold Quicvarint.maxVarInt8; unfold maxPacketBufferSize at remainingSmall; omega),
      two]
  have popped : onStream id str (SendStream.popStreamFrame (remainingLen + 2)) sys.popped =
      .ok (f?, hasMore) ⟨sys.popped.framer, sys.streams.insert id s', conn'⟩ := by
    simp [onStream, popStreamFrame]
  rw [lenField]
  dsimp only
  rw [popped]
  dsimp only
  rw [ended]
  cases f? with
  | none =>
    refine ⟨requeued, [], _, ⟨ready', keys, queued, requeuedSub, List.nil_sublist _, nofun⟩, ?_⟩
    simp
  | some f =>
    obtain ⟨fitsBudget, lengthField⟩ := fits f rfl
    refine ⟨requeued, [⟨f, some (.sendStream id)⟩], _,
      ⟨ready', keys, queued, requeuedSub, List.Sublist.refl _, fun g member => ?_⟩, ?_⟩
    · rw [List.mem_singleton] at member
      subst member
      exact ⟨show (f.length : Int) ≤ maxLen - length + 2 by omega, lengthField⟩
    · simp

theorem Ready.turn_missing {sys : Sending} (ready : sys.Ready) {maxLen : Int} {id : Nat} {rest : List Nat}
    (queue : sys.framer.streamQueue.contents = id :: rest) (missing : sys.streams.lookup id = none)
    {length : Int} (room : (minStreamFrameSize : Int) + length ≤ maxLen) (n : Nat)
    (frames : List Ackhandler.StreamFrame) :
    ∃ sys', Turn maxLen length sys id rest [] [] sys' ∧
      appendStreamFramesLoop maxLen (n + 1) frames length sys = appendStreamFramesLoop maxLen n frames length sys' := by
  obtain ⟨sched, contents⟩ := ready.scheduled.retire queue
  refine ⟨⟨_, sys.streams, sys.connection⟩, ⟨⟨sched, ready.poppable, ready.within⟩, fun k => Iff.rfl,
    by rw [List.append_nil]; exact contents, List.nil_sublist _, List.nil_sublist _, nofun⟩, ?_⟩
  rw [appendStreamFramesLoop]
  simp only [show ¬ ((minStreamFrameSize : Int) + length > maxLen) by omega, if_false, Call.bind_apply,
    ready.popFront queue, Call.get_apply, popped_streams, missing]
  rfl

theorem Ready.turn {sys : Sending} (ready : sys.Ready) {maxLen : Int} {n : Nat}
    (queued : n + 1 ≤ sys.framer.streamQueue.len) {length : Int} (started : 0 ≤ length)
    (room : (minStreamFrameSize : Int) + length ≤ maxLen) (small : maxLen ≤ maxPacketBufferSize)
    (frames : List Ackhandler.StreamFrame) :
    ∃ id rest requeued new sys', sys.framer.streamQueue.contents = id :: rest ∧
      Turn maxLen length sys id rest requeued new sys' ∧
      appendStreamFramesLoop maxLen (n + 1) frames length sys =
        appendStreamFramesLoop maxLen n (frames ++ new) (length + (new.map fun f => (f.frame.length : Int)).sum)
          sys' := by
  obtain ⟨id, rest, queue⟩ := List.exists_cons_of_length_pos
    (show 0 < sys.framer.streamQueue.contents.length by
      rw [RingBuffer.length_contents]; omega)
  cases found : sys.streams.lookup id with
  | none =>
    obtain ⟨sys', turn, loop⟩ := ready.turn_missing queue found room n frames
    exact ⟨id, rest, [], [], sys', queue, turn, by simpa using loop⟩
  | some str =>
    obtain ⟨requeued, new, sys', turn, loop⟩ := ready.turn_found queue found started room small n frames
    exact ⟨id, rest, requeued, new, sys', queue, turn, loop⟩

/-- The STREAM frames one `AppendStreamFrames` call pops, after `length` of
`maxLen` bytes: each popped with `MinStreamFrameSize` bytes left, with its
length field, and within what was left and the two bytes of that field. -/
def FitsAfter (maxLen : Int) : Int → List Ackhandler.StreamFrame → Prop
  | _, [] => True
  | length, f :: rest =>
    (minStreamFrameSize : Int) + length ≤ maxLen ∧ f.frame.length ≤ maxLen - length + 2 ∧
      f.frame.dataLenPresent = true ∧ FitsAfter maxLen (length + f.frame.length) rest

/-- What `n` turns of the loop of `AppendStreamFrames` leave, from `sys`
after `length` of `maxLen` bytes: a ready system with the same streams, the
first `k` streams of the queue popped and those with more data back at its
end in their order, the frames popped in that order too, and fitting. -/
structure Turns (maxLen length : Int) (sys : Sending) (n : Nat) (new : List Ackhandler.StreamFrame)
    (sys' : Sending) : Prop where
  ready : sys'.Ready
  keys : ∀ k, k ∈ sys'.streams ↔ k ∈ sys.streams
  order : ∃ k requeued, k ≤ n ∧
    sys'.framer.streamQueue.contents = sys.framer.streamQueue.contents.drop k ++ requeued ∧
    requeued.Sublist (sys.framer.streamQueue.contents.take k) ∧
    (new.map (·.handler)).Sublist ((sys.framer.streamQueue.contents.take k).map fun id => some (.sendStream id))
  fits : FitsAfter maxLen length new

theorem Turns.none {maxLen length : Int} {sys : Sending} (ready : sys.Ready) (n : Nat) :
    Turns maxLen length sys n [] sys :=
  ⟨ready, fun _ => Iff.rfl, ⟨0, [], Nat.zero_le n, by simp, List.nil_sublist _, List.nil_sublist _⟩, trivial⟩

theorem Turn.turns {maxLen length : Int} {sys sys₁ sys' : Sending} {id : Nat} {rest requeued : List Nat}
    {new₁ new₂ : List Ackhandler.StreamFrame} {n : Nat} (queue : sys.framer.streamQueue.contents = id :: rest)
    (turn : Turn maxLen length sys id rest requeued new₁ sys₁) (room : (minStreamFrameSize : Int) + length ≤ maxLen)
    (queued : n ≤ rest.length)
    (turns : Turns maxLen (length + (new₁.map fun f => (f.frame.length : Int)).sum) sys₁ n new₂ sys') :
    Turns maxLen length sys (n + 1) (new₁ ++ new₂) sys' := by
  obtain ⟨k, requeued₂, atMost, contents, requeuedSub, handlersSub⟩ := turns.order
  have inRest : k ≤ rest.length := atMost.trans queued
  rw [turn.queue, List.drop_append_of_le_length inRest] at contents
  rw [turn.queue, List.take_append_of_le_length inRest] at requeuedSub handlersSub
  refine ⟨turns.ready, fun k => (turns.keys k).trans (turn.keys k),
    ⟨k + 1, requeued ++ requeued₂, by omega, ?_, ?_, ?_⟩, ?_⟩
  · rw [contents, queue, List.drop_succ_cons, List.append_assoc]
  · rw [queue, List.take_succ_cons]
    exact turn.requeued.append requeuedSub
  · rw [queue, List.take_succ_cons, List.map_append, List.map_cons]
    exact turn.handlers.append handlersSub
  · -- a turn pops at most one frame
    have atMostOne := turn.handlers.length_le
    rw [List.length_map, List.length_singleton] at atMostOne
    rcases new₁ with _ | ⟨f, _ | ⟨g, more⟩⟩
    · simpa using turns.fits
    · obtain ⟨fitsBudget, lengthField⟩ := turn.fits f (List.mem_singleton_self f)
      exact ⟨room, fitsBudget, lengthField, by simpa using turns.fits⟩
    · simp at atMostOne

theorem Ready.loop {sys : Sending} (ready : sys.Ready) {maxLen : Int} (small : maxLen ≤ maxPacketBufferSize)
    {n : Nat} (queued : n ≤ sys.framer.streamQueue.len) {length : Int} (started : 0 ≤ length)
    (frames : List Ackhandler.StreamFrame) :
    ∃ new sys', appendStreamFramesLoop maxLen n frames length sys =
        .ok (frames ++ new, length + (new.map fun f => (f.frame.length : Int)).sum) sys' ∧
      Turns maxLen length sys n new sys' := by
  induction n generalizing sys frames length with
  | zero => exact ⟨[], sys, by simp [appendStreamFramesLoop], Turns.none ready 0⟩
  | succ n ih =>
    by_cases room : (minStreamFrameSize : Int) + length ≤ maxLen
    · obtain ⟨id, rest, requeued, new₁, sys₁, queue, turn, loop⟩ := ready.turn queued started room small frames
      have long : n ≤ rest.length := by
        have := congrArg List.length queue
        rw [RingBuffer.length_contents, List.length_cons] at this
        omega
      have stillQueued : n ≤ sys₁.framer.streamQueue.len := by
        have := congrArg List.length turn.queue
        rw [RingBuffer.length_contents, List.length_append] at this
        omega
      have grown : 0 ≤ length + (new₁.map fun f => (f.frame.length : Int)).sum :=
        Int.add_nonneg started (List.sum_nonneg fun x member => by
          obtain ⟨f, -, rfl⟩ := List.mem_map.mp member
          exact Int.natCast_nonneg _)
      obtain ⟨new₂, sys', run, turns⟩ := ih turn.ready stillQueued grown (frames ++ new₁)
      refine ⟨new₁ ++ new₂, sys', ?_, turn.turns queue room long turns⟩
      rw [loop, run, List.append_assoc, List.map_append, List.sum_append, Int.add_assoc]
    · refine ⟨[], sys, ?_, Turns.none ready (n + 1)⟩
      simp [appendStreamFramesLoop, show (minStreamFrameSize : Int) + length > maxLen by omega]

theorem FitsAfter.last {maxLen : Int} : ∀ {length : Int} {pre : List Ackhandler.StreamFrame}
    {last : Ackhandler.StreamFrame}, FitsAfter maxLen length (pre ++ [last]) →
    (minStreamFrameSize : Int) + (length + (pre.map fun f => (f.frame.length : Int)).sum) ≤ maxLen ∧
      last.frame.length ≤ maxLen - (length + (pre.map fun f => (f.frame.length : Int)).sum) + 2 ∧
      last.frame.dataLenPresent = true
  | length, [], last, fits => by simpa [FitsAfter] using fits
  | length, f :: pre, last, fits => by
    obtain ⟨-, -, -, rest⟩ := fits
    have := FitsAfter.last rest
    simpa [Int.add_assoc] using this

theorem length_without_lengthField {g : StreamFrame} (lengthField : g.dataLenPresent = true) {r : Int}
    (room : 80 ≤ r) (fits : (g.length : Int) ≤ r + 2) : ({ g with dataLenPresent := false }.length : Int) ≤ r := by
  have idLen := Quicvarint.size_le_eight g.streamID
  have offsetLen := Quicvarint.size_le_eight g.offset
  simp only [StreamFrame.length, lengthField, if_true] at fits
  simp only [StreamFrame.length, Bool.false_eq_true, if_false, StreamFrame.dataLen, Nat.add_zero] at fits ⊢
  by_cases short : Quicvarint.size g.data.length = 1
  · have fewBytes := (Quicvarint.size_eq_one_iff _).mp short
    unfold Quicvarint.maxVarInt1 at fewBytes
    split_ifs at * <;> omega
  · have twoBytes : 2 ≤ Quicvarint.size g.data.length := by
      have := Quicvarint.size_pos g.data.length
      omega
    split_ifs at * <;> omega

theorem dropLengthField_fits (frames : List Ackhandler.StreamFrame) {new : List Ackhandler.StreamFrame}
    {maxLen : Int} (fits : FitsAfter maxLen 0 new) :
    ∃ new', dropLengthField frames.length (frames ++ new) (new.map fun f => (f.frame.length : Int)).sum =
        (frames ++ new', (new'.map fun f => (f.frame.length : Int)).sum) ∧
      (new' ≠ [] → (new'.map fun f => (f.frame.length : Int)).sum ≤ maxLen) ∧
      new'.map (·.handler) = new.map (·.handler) := by
  rcases List.eq_nil_or_concat new with rfl | ⟨pre, last, rfl⟩
  · refine ⟨[], ?_, fun nonempty => absurd rfl nonempty, rfl⟩
    unfold dropLengthField
    split
    · simp
    · rfl
  · rw [List.concat_eq_append] at fits ⊢
    obtain ⟨room, lastFits, lengthField⟩ := fits.last
    set last' : Ackhandler.StreamFrame := { last with frame := { last.frame with dataLenPresent := false } }
      with lastDef
    have shorter : (last'.frame.length : Int) ≤ maxLen - (pre.map fun f => (f.frame.length : Int)).sum :=
      length_without_lengthField lengthField (by unfold minStreamFrameSize at room; omega) (by simpa using lastFits)
    refine ⟨pre ++ [last'], ?_, fun _ => ?_, by simp [last']⟩
    · unfold dropLengthField
      rw [← List.append_assoc, List.getLast?_concat]
      simp only [List.length_append, List.length_singleton]
      rw [if_pos (by omega), List.dropLast_concat]
      simp only [List.map_append, List.map_singleton, List.sum_append, List.sum_singleton, List.append_assoc]
      refine Prod.ext rfl ?_
      simp only [lastDef]
      omega
    · simp only [List.map_append, List.map_singleton, List.sum_append, List.sum_singleton]
      omega

theorem Ready.appendStreamFrames {sys : Sending} (ready : sys.Ready) (frames : List Ackhandler.StreamFrame)
    {maxLen : Int} (small : maxLen ≤ maxPacketBufferSize) :
    ∃ new length sys', appendStreamFrames frames maxLen sys = .ok (frames ++ new, length) sys' ∧
      sys'.Ready ∧ (∀ k, k ∈ sys'.streams ↔ k ∈ sys.streams) ∧
      length = (new.map fun f => (f.frame.length : Int)).sum ∧ (new ≠ [] → length ≤ maxLen) ∧
      ∃ k requeued, sys'.framer.streamQueue.contents = sys.framer.streamQueue.contents.drop k ++ requeued ∧
        requeued.Sublist (sys.framer.streamQueue.contents.take k) ∧
        (new.map (·.handler)).Sublist ((sys.framer.streamQueue.contents.take k).map fun id => some (.sendStream id)) := by
  obtain ⟨new, sys', loop, turns⟩ := ready.loop small (le_refl _) (le_refl 0) frames
  obtain ⟨new', dropped, fits, handlers⟩ := dropLengthField_fits frames turns.fits
  obtain ⟨k, requeued, -, contents, requeuedSub, handlersSub⟩ := turns.order
  refine ⟨new', _, sys', ?_, turns.ready, turns.keys, rfl, fits, k, requeued, contents, requeuedSub,
    handlers ▸ handlersSub⟩
  simp only [Sending.appendStreamFrames, Call.bind_apply, Call.get_apply]
  rw [loop]
  simp [dropped]

/-- The framer hands out STREAM frames whose lengths add up to the length it
reports, which is within `maxLen`, and leaves a ready system ready: every
stream it pops from gets a budget it can work with, and the loop never pops an
empty queue. -/
theorem appendStreamFrames_fits (sys : Sending) (frames : List Ackhandler.StreamFrame) (maxLen : Int)
    (ready : sys.Ready) (small : maxLen ≤ maxPacketBufferSize) :
    ∃ new length sys', appendStreamFrames frames maxLen sys = .ok (frames ++ new, length) sys' ∧ sys'.Ready ∧
      length = (new.map fun f => (f.frame.length : Int)).sum ∧ (new ≠ [] → length ≤ maxLen) := by
  obtain ⟨new, length, sys', run, ready', -, reported, fits, -⟩ := ready.appendStreamFrames frames small
  exact ⟨new, length, sys', run, ready', reported, fits⟩

/-- A framer with one fresh send stream and nothing queued. -/
def oneStream : Sending :=
  ⟨Framer.newFramer, AList.insert 0 (SendStream.newSendStream 0 (SendFlowController.init 100)) ∅,
    SendFlowController.init 100⟩

theorem ready_oneStream : oneStream.Ready := by
  refine ⟨Framer.scheduled_newFramer, fun id str found => ?_, SendFlowController.within_init 100⟩
  dsimp only [oneStream] at found
  have fresh : str = SendStream.newSendStream 0 (SendFlowController.init 100) := by
    by_cases zero : id = 0
    · subst zero
      rw [AList.lookup_insert] at found
      exact (Option.some.inj found).symm
    · rw [AList.lookup_insert_ne zero, AList.lookup_empty] at found
      cases found
  subst fresh
  exact ⟨trivial, SendFlowController.within_init 100, nofun⟩

theorem appendStreamFrames_fits_oneStream :
    oneStream.Ready ∧ (1000 : Int) ≤ maxPacketBufferSize ∧
      ∃ new length sys', appendStreamFrames [] 1000 oneStream = .ok ([] ++ new, length) sys' ∧ sys'.Ready ∧
        length = (new.map fun f => (f.frame.length : Int)).sum ∧ (new ≠ [] → length ≤ 1000) :=
  ⟨ready_oneStream, by decide, appendStreamFrames_fits oneStream [] 1000 ready_oneStream (by decide)⟩

end Sending

end QuicFec
