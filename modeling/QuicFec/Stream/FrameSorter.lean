import QuicFec.Lib.Go
import QuicFec.Lib.LinkedList
import QuicFec.Protocol

/-! # Stream reassembly: the frame sorter

`frame_sorter.go`.  A receive stream hands the data of every STREAM frame to
its frame sorter, at the frame's offset and in whatever order frames arrive,
and reads the stream back in order with `Pop`.  The sorter keeps

* `queue`, the data it holds, by offset: a Go map, here Mathlib's `AList`;
* `readPos`, the offset `Pop` delivers next;
* `gaps`, the ranges not received yet: a `list.List` of `byteInterval`s in
  order, the last one ending at `MaxByteCount`.

A frame's callback (`doneCb`, the frame's `PutBack`) returns its buffer.  The
sorter calls it when it drops or copies the frame's data, and `Pop` hands it
to the reader otherwise; calling it is the only effect the sorter has outside
its own fields, and `called` records those calls in order.

`push` holds pointers to gaps while it edits the list.  It works on a
`Go.LinkedList` copy of `gaps`, whose handles are the gaps' indices, and
stores the values back before its last check.  It is cut here into the steps
the Go function takes one after the other. -/
set_option autoImplicit false

namespace QuicFec

open Go QuicFec.Protocol

/-- `byteInterval`: the offsets from `Start` up to, not including, `End`. -/
structure ByteInterval where
  start : Nat
  «end» : Nat
deriving DecidableEq, Repr

/-- `frameSorterEntry`; a nil `DoneCb` is `none`. -/
structure FrameSorterEntry (α γ : Type) where
  data : List α
  doneCb : Option γ
deriving DecidableEq

/-- `frameSorter`, with the callback calls it has made. -/
structure FrameSorter (α γ : Type) where
  queue : AList (fun _ : Nat => FrameSorterEntry α γ)
  readPos : Nat
  gaps : List ByteInterval
  called : List γ

namespace FrameSorter

variable {α γ σ : Type}

def errDuplicateStreamData : String := "duplicate stream data"

/-- The error of `push` once the gap list is too long. -/
def errTooManyGaps : String := "too many gaps in received data"

/-- The panic of `findStartGap` and `findEndGap`. -/
def noGapFound : String := "no gap found"

/-- The panic of `Pop`. -/
def errReadPosition : String := "frame sorter BUG: read position higher than a gap"

/-- `newFrameSorter`: nothing received, one gap over every offset. -/
def newFrameSorter : FrameSorter α γ where
  queue := ∅
  readPos := 0
  gaps := [⟨0, maxByteCount⟩]
  called := []

/-- `if doneCb != nil { doneCb() }`. -/
def callDone (doneCb : Option γ) : Call (FrameSorter α γ) Unit :=
  Call.modify fun s => { s with called := s.called ++ doneCb.toList }

theorem length_keys_erase_lt {β : Type} (q : AList (fun _ : Nat => β)) {pos : Nat} {b : β}
    (found : q.lookup pos = some b) : (q.erase pos).keys.length < q.keys.length := by
  have member : pos ∈ q.keys := AList.mem_keys.mp (AList.lookup_isSome.mp (by simp [found]))
  rw [AList.keys_erase, List.length_erase_of_mem member]
  have := List.length_pos_of_mem member
  omega

/-! ## Looking up gaps -/

/-- The loop of `findStartGap` from gap `i` on: the first gap whose closed
range holds `offset`, or else the first gap above it. -/
def findStartGapFrom (offset : Nat) : List ByteInterval → Nat → Option (Nat × Bool)
  | [], _ => none
  | gap :: rest, i =>
      if offset ≥ gap.start ∧ offset ≤ gap.«end» then some (i, true)
      else if offset < gap.start then some (i, false)
      else findStartGapFrom offset rest (i + 1)

/-- `findStartGap`; `none` is its panic. -/
def findStartGap (gaps : List ByteInterval) (offset : Nat) : Option (Nat × Bool) :=
  findStartGapFrom offset gaps 0

/-- The loop of `findEndGap` from gap `i` on: the first gap whose half-open
range holds `offset`, or else the gap before the first gap above it
(`gap.Prev()`, nil at the front of the list). -/
def findEndGapFrom (offset : Nat) : List ByteInterval → Nat → Option (Option Nat × Bool)
  | [], _ => none
  | gap :: rest, i =>
      if offset ≥ gap.start ∧ offset < gap.«end» then some (some i, true)
      else if offset < gap.start then some (if i = 0 then none else some (i - 1), false)
      else findEndGapFrom offset rest (i + 1)

/-- `findEndGap(startGap, offset)`; `none` is its panic. -/
def findEndGap (gaps : List ByteInterval) (startGap offset : Nat) : Option (Option Nat × Bool) :=
  findEndGapFrom offset (gaps.drop startGap) startGap

/-- The gap list as every call leaves it: each gap is non-empty and ends
before the next one starts, with received data between them, and the last gap
ends at `MaxByteCount`. -/
def WellFormedGaps : List ByteInterval → Prop
  | [] => False
  | [gap] => gap.start < gap.«end» ∧ gap.«end» = maxByteCount
  | gap :: next :: rest =>
      gap.start < gap.«end» ∧ gap.«end» < next.start ∧ WellFormedGaps (next :: rest)

instance decidableWellFormedGaps : (gaps : List ByteInterval) → Decidable (WellFormedGaps gaps)
  | [] => isFalse id
  | [_] => inferInstanceAs (Decidable (_ ∧ _))
  | _ :: next :: rest =>
      have := decidableWellFormedGaps (next :: rest)
      inferInstanceAs (Decidable (_ ∧ _ ∧ _))

theorem WellFormedGaps.bounded : ∀ {gaps : List ByteInterval}, WellFormedGaps gaps →
    ∀ g ∈ gaps, g.start < g.«end» ∧ g.«end» ≤ maxByteCount
  | [_], ⟨nonempty, last⟩, g, member => by
      rw [List.mem_singleton] at member
      subst member
      omega
  | _ :: next :: _, ⟨nonempty, before, restWellFormed⟩, g, member => by
      have restBounded := WellFormedGaps.bounded restWellFormed
      rcases List.mem_cons.mp member with rfl | inRest
      · have := restBounded next List.mem_cons_self
        omega
      · exact restBounded g inRest

theorem WellFormedGaps.exists_last : ∀ {gaps : List ByteInterval}, WellFormedGaps gaps →
    ∃ g ∈ gaps, g.«end» = maxByteCount
  | [gap], ⟨_, last⟩ => ⟨gap, List.mem_singleton_self gap, last⟩
  | _ :: _ :: _, ⟨_, _, restWellFormed⟩ =>
      have ⟨g, member, last⟩ := WellFormedGaps.exists_last restWellFormed
      ⟨g, List.mem_cons_of_mem _ member, last⟩

theorem WellFormedGaps.ne_nil {gaps : List ByteInterval} (wellFormed : WellFormedGaps gaps) :
    gaps ≠ [] := by
  rintro rfl
  exact wellFormed

theorem findStartGapFrom_isSome (offset : Nat) :
    ∀ (gaps : List ByteInterval) (i : Nat), (∃ g ∈ gaps, offset ≤ g.«end») →
      (findStartGapFrom offset gaps i).isSome
  | [], _, ⟨_, member, _⟩ => absurd member List.not_mem_nil
  | gap :: rest, i, ⟨g, member, below⟩ => by
      unfold findStartGapFrom
      split_ifs with inGap beforeGap
      · rfl
      · rfl
      · -- past this gap: the gap that ends above `offset` comes later
        apply findStartGapFrom_isSome offset rest (i + 1)
        rcases List.mem_cons.mp member with rfl | inRest
        · omega
        · exact ⟨g, inRest, below⟩

theorem findEndGapFrom_eq_none (offset : Nat) :
    ∀ (gaps : List ByteInterval) (i : Nat), (∀ g ∈ gaps, g.start ≤ g.«end» ∧ g.«end» ≤ offset) →
      findEndGapFrom offset gaps i = none
  | [], _, _ => rfl
  | gap :: rest, i, past => by
      have ⟨ordered, below⟩ := past gap List.mem_cons_self
      rw [findEndGapFrom, if_neg (by omega), if_neg (by omega)]
      exact findEndGapFrom_eq_none offset rest (i + 1) fun g member =>
        past g (List.mem_cons_of_mem gap member)

theorem findStartGapFrom_spec (offset : Nat) :
    ∀ (gaps : List ByteInterval) (i k : Nat) (startsInGap : Bool),
      findStartGapFrom offset gaps i = some (k, startsInGap) →
      ∃ n gap, k = i + n ∧ gaps[n]? = some gap ∧
        (∀ m < n, ∀ g, gaps[m]? = some g → g.«end» < offset) ∧
        (startsInGap = true ∧ gap.start ≤ offset ∧ offset ≤ gap.«end» ∨
          startsInGap = false ∧ offset < gap.start)
  | [], _, _, _, found => by simp [findStartGapFrom] at found
  | gap :: rest, i, k, startsInGap, found => by
      unfold findStartGapFrom at found
      split_ifs at found with inGap beforeGap
      · simp only [Option.some.injEq, Prod.mk.injEq] at found
        obtain ⟨rfl, rfl⟩ := found
        exact ⟨0, gap, rfl, rfl, by simp, .inl ⟨rfl, inGap.1, inGap.2⟩⟩
      · simp only [Option.some.injEq, Prod.mk.injEq] at found
        obtain ⟨rfl, rfl⟩ := found
        exact ⟨0, gap, rfl, rfl, by simp, .inr ⟨rfl, beforeGap⟩⟩
      · -- past this gap: the search goes on one index further
        obtain ⟨n, found', rfl, at', earlier, inside⟩ :=
          findStartGapFrom_spec offset rest (i + 1) k startsInGap found
        refine ⟨n + 1, found', by omega, by simpa using at', ?_, inside⟩
        intro m below g atM
        cases m with
        | zero =>
            simp only [List.getElem?_cons_zero, Option.some.injEq] at atM
            subst atM
            omega
        | succ m => exact earlier m (by omega) g (by simpa using atM)

theorem findEndGapFrom_spec (offset : Nat) :
    ∀ (gaps : List ByteInterval) (i : Nat) (endGap : Option Nat) (endsInGap : Bool),
      findEndGapFrom offset gaps i = some (endGap, endsInGap) →
      ∃ n gap, gaps[n]? = some gap ∧
        (∀ m < n, ∀ g, gaps[m]? = some g → g.«end» ≤ offset) ∧
        (endsInGap = true ∧ endGap = some (i + n) ∧ gap.start ≤ offset ∧ offset < gap.«end» ∨
          endsInGap = false ∧ endGap = (if i + n = 0 then none else some (i + n - 1)) ∧
            offset < gap.start)
  | [], _, _, _, found => by simp [findEndGapFrom] at found
  | gap :: rest, i, endGap, endsInGap, found => by
      unfold findEndGapFrom at found
      by_cases inGap : offset ≥ gap.start ∧ offset < gap.«end»
      · rw [if_pos inGap, Option.some.injEq, Prod.mk.injEq] at found
        obtain ⟨rfl, rfl⟩ := found
        exact ⟨0, gap, rfl, by simp, .inl ⟨rfl, rfl, inGap.1, inGap.2⟩⟩
      rw [if_neg inGap] at found
      by_cases beforeGap : offset < gap.start
      · rw [if_pos beforeGap, Option.some.injEq, Prod.mk.injEq] at found
        obtain ⟨rfl, rfl⟩ := found
        exact ⟨0, gap, rfl, by simp, .inr ⟨rfl, by simp, beforeGap⟩⟩
      rw [if_neg beforeGap] at found
      obtain ⟨n, found', at', earlier, inside⟩ :=
        findEndGapFrom_spec offset rest (i + 1) endGap endsInGap found
      refine ⟨n + 1, found', by simpa using at', ?_, by simpa [Nat.add_assoc, Nat.add_comm 1] using inside⟩
      intro m below g atM
      cases m with
      | zero =>
          simp only [List.getElem?_cons_zero, Option.some.injEq] at atM
          subst atM
          omega
      | succ m => exact earlier m (by omega) g (by simpa using atM)

/-! ## `push`, step by step -/

/-- The frame as `push` has cut it so far. -/
structure PushFrame (α : Type) where
  data : List α
  start : Nat
  «end» : Nat
  wasCut : Bool

/-- `wasCut && len(data) < protocol.MinStreamFrameBufferSize`: the piece left
of a cut frame is short enough to be copied. -/
def PushFrame.copied (f : PushFrame α) : Bool :=
  f.wasCut && decide (f.data.length < minStreamFrameBufferSize)

/-- What `push` reads from the gap list before it changes anything: the gaps
the frame starts and ends in, or next to, and the bounds it saves. -/
structure PushGaps where
  startGap : Nat
  startsInGap : Bool
  endGap : Nat
  endsInGap : Bool
  startGapEqualsEndGap : Bool
  startGapNext : Option Nat
  startGapEnd : Nat
  endGapStart : Nat
  endGapEnd : Nat

/-- The duplicate test of `push`: the frame ends before the gap it starts in
or next to. -/
def isDuplicate (gaps : List ByteInterval) (startGap : Nat) (endGap : Option Nat) («end» : Nat) :
    Call σ Bool := do
  let startGapValue ← Call.deref gaps[startGap]?
  if endGap = some startGap then pure (decide («end» ≤ startGapValue.start))
  else do
    -- `&&` evaluates `endGap.Value` only here
    let endGapValue ← Call.deref (endGap.bind (gaps[·]?))
    pure (decide (startGapValue.«end» ≥ endGapValue.start ∧ «end» ≤ startGapValue.start))

/-- `push` up to the saved bounds: find the gaps, return
`errDuplicateStreamData` for a frame with nothing new, and save what the later
steps read. -/
def locateGaps (gaps : List ByteInterval) (start «end» : Nat) : Call σ PushGaps := do
  let (startGap, startsInGap) ← Call.orPanic noGapFound (findStartGap gaps start)
  let (endGap, endsInGap) ← Call.orPanic noGapFound (findEndGap gaps startGap «end»)
  let duplicate ← isDuplicate gaps startGap endGap «end»
  Call.failIf (duplicate = true) errDuplicateStreamData
  let startGapValue ← Call.deref gaps[startGap]?
  let endGapIndex ← Call.deref endGap
  let endGapValue ← Call.deref gaps[endGapIndex]?
  pure
    { startGap, startsInGap, endGap := endGapIndex, endsInGap
      startGapEqualsEndGap := decide (endGap = some startGap)
      startGapNext := (LinkedList.ofList gaps).next startGap
      startGapEnd := startGapValue.«end»
      endGapStart := endGapValue.start
      endGapEnd := endGapValue.«end» }

-- the match hypotheses are read only by the termination proof
set_option linter.unusedVariables false in
/-- The first loop of `push`, over the frames queued from `pos` on: each one
the new frame extends past is deleted and its callback called; a queued frame
that reaches past the new one makes it a duplicate if it is the first, and
otherwise cuts the new frame where it starts.  Returns the frame and whether it
replaced at least one. -/
def replaceFrames (f : PushFrame α) (pos : Nat) (hasReplacedAtLeastOne : Bool)
    (s : FrameSorter α γ) : Result (FrameSorter α γ) (PushFrame α × Bool) :=
  match found : s.queue.lookup pos with
  | none => .ok (f, hasReplacedAtLeastOne) s
  | some oldEntry =>
      let oldEntryLen := oldEntry.data.length
      if f.«end» - pos > oldEntryLen ∨ (hasReplacedAtLeastOne = true ∧ f.«end» - pos = oldEntryLen) then
        replaceFrames f (pos + oldEntryLen) true
          { s with queue := s.queue.erase pos, called := s.called ++ oldEntry.doneCb.toList }
      else if !hasReplacedAtLeastOne then .error errDuplicateStreamData s
      else .ok ({ f with data := f.data.take (pos - f.start), «end» := pos, wasCut := true }, true) s
termination_by s.queue.keys.length
decreasing_by exact length_keys_erase_lt s.queue found

-- the match hypotheses are read only by the termination proof
set_option linter.unusedVariables false in
/-- `deleteConsecutive(pos)`: delete the frames that follow each other from
`pos` on, calling their callbacks. -/
def deleteConsecutive (pos : Nat) (s : FrameSorter α γ) : FrameSorter α γ :=
  match found : s.queue.lookup pos with
  | none => s
  | some oldEntry =>
      deleteConsecutive (pos + oldEntry.data.length)
        { s with queue := s.queue.erase pos, called := s.called ++ oldEntry.doneCb.toList }
termination_by s.queue.keys.length
decreasing_by exact length_keys_erase_lt s.queue found

/-- `push` at the start gap, whose value is `startGap`: cut a frame that starts
inside received data back to the start gap, and shrink or delete the start
gap.  Returns whether the frame cut the start gap's end (`adjustedStartGapEnd`). -/
def cutStartAt (startGap : ByteInterval) (g : PushGaps) (hasReplacedAtLeastOne : Bool)
    (f : PushFrame α) (gaps : LinkedList ByteInterval) :
    PushFrame α × LinkedList ByteInterval × Bool :=
  let f :=
    if !g.startsInGap && !hasReplacedAtLeastOne then
      { f with data := f.data.drop (startGap.start - f.start), start := startGap.start, wasCut := true }
    else f
  if f.start ≤ startGap.start then
    if f.«end» ≥ startGap.«end» then (f, gaps.remove g.startGap, false)
    else (f, gaps.modifyValue g.startGap fun v => { v with start := f.«end» }, false)
  else if !hasReplacedAtLeastOne then
    (f, gaps.modifyValue g.startGap fun v => { v with «end» := f.start }, true)
  else (f, gaps, false)

/-- `cutStartAt` on the start gap's value, `startGap.Value`. -/
def cutStart (g : PushGaps) (hasReplacedAtLeastOne : Bool) (f : PushFrame α)
    (gaps : LinkedList ByteInterval) : Call σ (PushFrame α × LinkedList ByteInterval × Bool) := do
  let startGap ← Call.deref (gaps.value? g.startGap)
  pure (cutStartAt startGap g hasReplacedAtLeastOne f gaps)

-- the match hypotheses are read only by the termination proof
set_option linter.unusedVariables false in
/-- The second loop of `push`, over the gaps after the start gap that end
before the end gap starts: each one is deleted, with the frames that follow it. -/
def deleteGaps (endGapStart : Nat) (gap : Option Nat) (gaps : LinkedList ByteInterval)
    (s : FrameSorter α γ) : Result (FrameSorter α γ) (LinkedList ByteInterval) :=
  match gap with
  | none => .panic nilDereferenceMessage
  | some e =>
      match present : gaps.value? e with
      | none => .panic nilDereferenceMessage
      | some gapValue =>
          if gapValue.«end» < endGapStart then
            -- `nextGap = gap.Next()` is read before the gap goes
            deleteGaps endGapStart (gaps.next e) (gaps.remove e) (deleteConsecutive gapValue.«end» s)
          else .ok gaps s
termination_by gaps.slots.length + 1 - gap.getD gaps.slots.length
decreasing_by
  simp only [LinkedList.length_slots_remove, Option.getD_some]
  exact LinkedList.next_measure_lt gaps present

/-- `if !startGapEqualsEndGap { ... }`: the frames after the start gap and the
gaps between it and the end gap go. -/
def deleteBetween (g : PushGaps) (gaps : LinkedList ByteInterval) :
    Call (FrameSorter α γ) (LinkedList ByteInterval) := fun s =>
  if g.startGapEqualsEndGap then .ok gaps s
  else deleteGaps g.endGapStart g.startGapNext gaps (deleteConsecutive g.startGapEnd s)

/-- `push` at the end gap: cut a frame that ends inside received data back to
the end gap's end, and shrink or delete the end gap, or split the start gap. -/
def cutEnd (g : PushGaps) (adjustedStartGapEnd : Bool) (f : PushFrame α)
    (gaps : LinkedList ByteInterval) : PushFrame α × LinkedList ByteInterval :=
  let f :=
    if !g.endsInGap && f.start ≠ g.endGapEnd && f.«end» > g.endGapEnd then
      { f with data := f.data.take (g.endGapEnd - f.start), «end» := g.endGapEnd, wasCut := true }
    else f
  if f.«end» = g.endGapEnd then
    (f, if !g.startGapEqualsEndGap then gaps.remove g.endGap else gaps)
  else if g.startGapEqualsEndGap && adjustedStartGapEnd then
    -- the frame split the gap in two
    (f, gaps.insertAfter ⟨f.«end», g.startGapEnd⟩ g.startGap)
  else if !g.startGapEqualsEndGap then
    (f, gaps.modifyValue g.endGap fun v => { v with start := f.«end» })
  else (f, gaps)

/-- The end of `push`: a short piece of a cut frame is copied and its buffer
returned at once; then the gap count is checked and the frame queued. -/
def store (f : PushFrame α) (doneCb : Option γ) (gaps : LinkedList ByteInterval) :
    Call (FrameSorter α γ) Unit := do
  callDone (if f.copied then doneCb else none)
  Call.modify fun s => { s with gaps := gaps.values }
  Call.failIf (gaps.len > maxStreamFrameSorterGaps) errTooManyGaps
  Call.modify fun s =>
    { s with queue := s.queue.insert f.start ⟨f.data, if f.copied then none else doneCb⟩ }

def push (data : List α) (offset : Nat) (doneCb : Option γ) : Call (FrameSorter α γ) Unit := do
  Call.failIf (data.length = 0) errDuplicateStreamData
  let f : PushFrame α := ⟨data, offset, offset + data.length, false⟩
  let s ← Call.get
  let front ← Call.deref s.gaps.head?
  Call.failIf (f.«end» ≤ front.start) errDuplicateStreamData
  let g ← locateGaps s.gaps f.start f.«end»
  let (f, hasReplacedAtLeastOne) ← replaceFrames f f.start false
  let (f, gaps, adjustedStartGapEnd) ← cutStart g hasReplacedAtLeastOne f (LinkedList.ofList s.gaps)
  let gaps ← deleteBetween g gaps
  let (f, gaps) := cutEnd g adjustedStartGapEnd f gaps
  store f doneCb gaps

/-- `Push`: data with nothing new is no error; its callback is called at once. -/
def Push (data : List α) (offset : Nat) (doneCb : Option γ) : Call (FrameSorter α γ) Unit :=
  Call.handle (push data offset doneCb) fun err =>
    if err = errDuplicateStreamData then callDone doneCb else Call.fail err

/-- `Pop`: the offset, the data (nil when nothing is queued at `readPos`) and
the callback of the frame at the read position. -/
def pop : Call (FrameSorter α γ) (Nat × Option (List α) × Option γ) := fun s =>
  match s.queue.lookup s.readPos with
  | none => .ok (s.readPos, none, none) s
  | some entry =>
      let s' := { s with queue := s.queue.erase s.readPos, readPos := s.readPos + entry.data.length }
      match s'.gaps.head? with
      | none => .panic nilDereferenceMessage
      | some front =>
          if front.«end» ≤ s'.readPos then .panic errReadPosition
          else .ok (s.readPos, some entry.data, entry.doneCb) s'

/-! ## One iteration of each loop -/

section Loops

variable (f : PushFrame α) (pos : Nat) (hasReplacedAtLeastOne : Bool) (s : FrameSorter α γ)

theorem replaceFrames_of_none (found : s.queue.lookup pos = none) :
    replaceFrames f pos hasReplacedAtLeastOne s = .ok (f, hasReplacedAtLeastOne) s := by
  rw [replaceFrames]
  split
  · rfl
  · simp_all

theorem replaceFrames_of_some {oldEntry : FrameSorterEntry α γ}
    (found : s.queue.lookup pos = some oldEntry) :
    replaceFrames f pos hasReplacedAtLeastOne s =
      if f.«end» - pos > oldEntry.data.length ∨
          (hasReplacedAtLeastOne = true ∧ f.«end» - pos = oldEntry.data.length) then
        replaceFrames f (pos + oldEntry.data.length) true
          { s with queue := s.queue.erase pos, called := s.called ++ oldEntry.doneCb.toList }
      else if !hasReplacedAtLeastOne then .error errDuplicateStreamData s
      else .ok ({ f with data := f.data.take (pos - f.start), «end» := pos, wasCut := true }, true) s := by
  rw [replaceFrames]
  split
  · simp_all
  · rename_i entry lookupEq
    rw [found, Option.some.injEq] at lookupEq
    subst lookupEq
    rfl

theorem deleteConsecutive_of_none (found : s.queue.lookup pos = none) :
    deleteConsecutive pos s = s := by
  rw [deleteConsecutive]
  split
  · rfl
  · simp_all

theorem deleteConsecutive_of_some {oldEntry : FrameSorterEntry α γ}
    (found : s.queue.lookup pos = some oldEntry) :
    deleteConsecutive pos s =
      deleteConsecutive (pos + oldEntry.data.length)
        { s with queue := s.queue.erase pos, called := s.called ++ oldEntry.doneCb.toList } := by
  rw [deleteConsecutive]
  split
  · simp_all
  · rename_i entry lookupEq
    rw [found, Option.some.injEq] at lookupEq
    subst lookupEq
    rfl

theorem deleteGaps_of_lt (endGapStart : Nat) (gaps : LinkedList ByteInterval) (e : Nat)
    {gap : ByteInterval} (present : gaps.value? e = some gap) (before : gap.«end» < endGapStart) :
    deleteGaps endGapStart (some e) gaps s =
      deleteGaps endGapStart (gaps.next e) (gaps.remove e) (deleteConsecutive gap.«end» s) := by
  rw [deleteGaps]
  split
  · simp_all
  · rename_i gapValue valueEq
    rw [present, Option.some.injEq] at valueEq
    subst valueEq
    rw [if_pos before]

theorem deleteGaps_of_not_lt (endGapStart : Nat) (gaps : LinkedList ByteInterval) (e : Nat)
    {gap : ByteInterval} (present : gaps.value? e = some gap) (reached : ¬ gap.«end» < endGapStart) :
    deleteGaps endGapStart (some e) gaps s = .ok gaps s := by
  rw [deleteGaps]
  split
  · simp_all
  · rename_i gapValue valueEq
    rw [present, Option.some.injEq] at valueEq
    subst valueEq
    rw [if_neg reached]

end Loops

/-! ## What each step of `push` returns -/

theorem isDuplicate_keeps (gaps : List ByteInterval) (startGap : Nat) (endGap : Option Nat) («end» : Nat) :
    Call.Keeps (isDuplicate gaps startGap endGap «end» : Call σ Bool) := by
  unfold isDuplicate
  refine (Call.keeps_deref _).bind fun startGapValue => ?_
  refine Call.keeps_ite _ (Call.keeps_pure _) ?_
  exact (Call.keeps_deref _).bind fun _ => Call.keeps_pure _

theorem locateGaps_keeps (gaps : List ByteInterval) (start «end» : Nat) :
    Call.Keeps (locateGaps gaps start «end» : Call σ PushGaps) := by
  unfold locateGaps
  refine (Call.keeps_orPanic _ _).bind fun ⟨startGap, startsInGap⟩ => ?_
  refine (Call.keeps_orPanic _ _).bind fun ⟨endGap, endsInGap⟩ => ?_
  refine (isDuplicate_keeps _ _ _ _).bind fun duplicate => ?_
  refine (Call.keeps_failIf _ _).bind fun _ => ?_
  refine (Call.keeps_deref _).bind fun _ => ?_
  refine (Call.keeps_deref _).bind fun _ => ?_
  exact (Call.keeps_deref _).bind fun _ => Call.keeps_pure _


theorem locateGaps_ok {gaps : List ByteInterval} {start «end» : Nat} {g : PushGaps} {s s' : σ}
    (run : locateGaps gaps start «end» s = .ok g s') :
    s' = s ∧ findStartGap gaps start = some (g.startGap, g.startsInGap) ∧
      findEndGap gaps g.startGap «end» = some (some g.endGap, g.endsInGap) ∧
      g.startGapEqualsEndGap = decide (g.endGap = g.startGap) ∧
      g.startGapNext = (LinkedList.ofList gaps).next g.startGap ∧
      ∃ startGap endGap, gaps[g.startGap]? = some startGap ∧ gaps[g.endGap]? = some endGap ∧
        g.startGapEnd = startGap.«end» ∧ g.endGapStart = endGap.start ∧ g.endGapEnd = endGap.«end» ∧
        (if g.endGap = g.startGap then ¬ «end» ≤ startGap.start
         else ¬ (startGap.«end» ≥ endGap.start ∧ «end» ≤ startGap.start)) := by
  have same := (locateGaps_keeps gaps start «end»).ok run
  subst same
  refine ⟨rfl, ?_⟩
  unfold locateGaps at run
  obtain ⟨⟨startGap, startsInGap⟩, s₁, foundStart, run⟩ := Call.bind_eq_ok.mp run
  cases foundStartEq : findStartGap gaps start with
  | none => simp [foundStartEq] at foundStart
  | some p =>
  simp only [foundStartEq, Call.orPanic_some, Result.ok.injEq] at foundStart
  obtain ⟨rfl, rfl⟩ := foundStart
  obtain ⟨⟨endGap, endsInGap⟩, s₂, foundEnd, run⟩ := Call.bind_eq_ok.mp run
  cases foundEndEq : findEndGap gaps startGap «end» with
  | none => simp [foundEndEq] at foundEnd
  | some q =>
  simp only [foundEndEq, Call.orPanic_some, Result.ok.injEq] at foundEnd
  obtain ⟨rfl, rfl⟩ := foundEnd
  obtain ⟨duplicate, s₃, testDuplicate, run⟩ := Call.bind_eq_ok.mp run
  have := (isDuplicate_keeps (σ := σ) _ _ _ _).ok testDuplicate
  subst this
  obtain ⟨_, s₄, notDuplicate, run⟩ := Call.bind_eq_ok.mp run
  simp only [Call.failIf_apply] at notDuplicate
  split_ifs at notDuplicate with isDup
  obtain rfl := (Result.ok.injEq _ _ _ _).mp notDuplicate |>.2
  obtain ⟨startGapValue, s₅, readStart, run⟩ := Call.bind_eq_ok.mp run
  cases startEq : gaps[startGap]? with
  | none => simp [startEq] at readStart
  | some sg =>
  simp only [startEq, Call.deref_some, Result.ok.injEq] at readStart
  obtain ⟨rfl, rfl⟩ := readStart
  obtain ⟨endGapIndex, s₆, readEndIndex, run⟩ := Call.bind_eq_ok.mp run
  cases endGap with
  | none => simp at readEndIndex
  | some e =>
  simp only [Call.deref_some, Result.ok.injEq] at readEndIndex
  obtain ⟨rfl, rfl⟩ := readEndIndex
  obtain ⟨endGapValue, s₇, readEnd, run⟩ := Call.bind_eq_ok.mp run
  cases endEq : gaps[e]? with
  | none => simp [endEq] at readEnd
  | some eg =>
  simp only [endEq, Call.deref_some, Result.ok.injEq] at readEnd
  obtain ⟨rfl, rfl⟩ := readEnd
  simp only [Call.pure_apply, Result.ok.injEq] at run
  obtain ⟨rfl, -⟩ := run
  simp only [isDuplicate, Call.bind_apply, startEq, Call.deref_some] at testDuplicate
  refine ⟨rfl, foundEndEq, by simp, rfl, sg, eg, startEq, endEq, rfl, rfl, rfl, ?_⟩
  dsimp only
  by_cases sameGap : e = startGap
  · subst sameGap
    simp only [if_true, Call.pure_apply, Result.ok.injEq] at testDuplicate
    obtain ⟨rfl, -⟩ := testDuplicate
    rw [if_pos rfl]
    simpa using isDup
  · simp only [Option.some.injEq, sameGap, if_false, Option.bind_some, endEq, Call.bind_apply,
      Call.deref_some, Call.pure_apply, Result.ok.injEq] at testDuplicate
    obtain ⟨rfl, -⟩ := testDuplicate
    rw [if_neg sameGap]
    simpa using isDup

theorem cutStart_ok {g : PushGaps} {replaced : Bool} {f : PushFrame α} {gaps : LinkedList ByteInterval}
    {r : PushFrame α × LinkedList ByteInterval × Bool} {s s' : σ}
    (run : cutStart g replaced f gaps s = .ok r s') :
    s' = s ∧ ∃ startGap, gaps.value? g.startGap = some startGap ∧
      r = cutStartAt startGap g replaced f gaps := by
  unfold cutStart at run
  obtain ⟨startGap, t, read, run⟩ := Call.bind_eq_ok.mp run
  cases present : gaps.value? g.startGap with
  | none => simp [present] at read
  | some sg =>
      simp only [present, Call.deref_some, Result.ok.injEq] at read
      obtain ⟨rfl, rfl⟩ := read
      simp only [Call.pure_apply, Result.ok.injEq] at run
      exact ⟨run.2.symm, sg, rfl, run.1.symm⟩

theorem replaceFrames_error {f : PushFrame α} {pos : Nat} {replaced : Bool} {s s' : FrameSorter α γ}
    {e : String} (run : replaceFrames f pos replaced s = .error e s') :
    replaced = false ∧ s' = s ∧ e = errDuplicateStreamData := by
  induction pos, replaced, s using replaceFrames.induct f with
  | case1 pos replaced s found =>
      rw [replaceFrames_of_none f pos replaced s found] at run
      cases run
  | case2 pos replaced s oldEntry found _ longer ih =>
      rw [replaceFrames_of_some f pos replaced s found, if_pos longer] at run
      exact absurd (ih run).1 (by simp)
  | case3 pos replaced s oldEntry found _ notLonger first =>
      rw [replaceFrames_of_some f pos replaced s found, if_neg notLonger, if_pos first] at run
      cases run
      exact ⟨by simpa using first, rfl, rfl⟩
  | case4 pos replaced s oldEntry found _ notLonger later =>
      rw [replaceFrames_of_some f pos replaced s found, if_neg notLonger, if_neg later] at run
      cases run

theorem store_ok {f : PushFrame α} {doneCb : Option γ} {gaps : LinkedList ByteInterval}
    {s s' : FrameSorter α γ} (run : store f doneCb gaps s = .ok () s') :
    ¬ gaps.len > maxStreamFrameSorterGaps ∧
      s' = { s with
        called := s.called ++ (if f.copied then doneCb else none).toList
        gaps := gaps.values
        queue := s.queue.insert f.start ⟨f.data, if f.copied then none else doneCb⟩ } := by
  by_cases tooMany : gaps.len > maxStreamFrameSorterGaps
  · simp [store, callDone, tooMany] at run
  · simp only [store, callDone, Call.bind_apply, Call.modify_apply, Call.failIf_apply, tooMany,
      if_false, Result.ok.injEq] at run
    simp only [true_and] at run
    exact ⟨tooMany, run.symm⟩

theorem store_error {f : PushFrame α} {doneCb : Option γ} {gaps : LinkedList ByteInterval}
    {s s' : FrameSorter α γ} {e : String} (run : store f doneCb gaps s = .error e s') :
    e = errTooManyGaps ∧
      s' = { s with
        called := s.called ++ (if f.copied then doneCb else none).toList
        gaps := gaps.values } := by
  by_cases tooMany : gaps.len > maxStreamFrameSorterGaps
  · simp only [store, callDone, Call.bind_apply, Call.modify_apply, Call.failIf_apply, tooMany,
      if_true, Result.error.injEq] at run
    exact ⟨run.1.symm, run.2.symm⟩
  · simp [store, callDone, tooMany] at run

theorem push_ok_steps {data : List α} {offset : Nat} {doneCb : Option γ} {s s' : FrameSorter α γ}
    (run : push data offset doneCb s = .ok () s') :
    ∃ front g f₁ replaced t startGap f₂ gaps₁ adjusted gaps₂ t₂ f₃ gaps₃,
      data.length ≠ 0 ∧ s.gaps.head? = some front ∧ ¬ offset + data.length ≤ front.start ∧
      locateGaps s.gaps offset (offset + data.length) s = .ok g s ∧
      replaceFrames ⟨data, offset, offset + data.length, false⟩ offset false s = .ok (f₁, replaced) t ∧
      (LinkedList.ofList s.gaps).value? g.startGap = some startGap ∧
      cutStartAt startGap g replaced f₁ (LinkedList.ofList s.gaps) = (f₂, gaps₁, adjusted) ∧
      deleteBetween g gaps₁ t = .ok gaps₂ t₂ ∧
      cutEnd g adjusted f₂ gaps₂ = (f₃, gaps₃) ∧
      store f₃ doneCb gaps₃ t₂ = .ok () s' := by
  unfold push at run
  obtain ⟨_, s₁, nonempty, afterEmpty⟩ := Call.bind_eq_ok.mp run
  have notEmpty : data.length ≠ 0 := fun empty => by simp [empty] at nonempty
  rw [(Call.keeps_failIf _ _).ok nonempty] at afterEmpty
  obtain ⟨s₂, s₃, read, afterGet⟩ := Call.bind_eq_ok.mp afterEmpty
  simp only [Call.get_apply, Result.ok.injEq] at read
  rw [← read.1, ← read.2] at afterGet
  obtain ⟨front, s₄, readFront, afterFront⟩ := Call.bind_eq_ok.mp afterGet
  rw [(Call.keeps_deref _).ok readFront] at afterFront
  have frontEq : s.gaps.head? = some front := by
    cases head : s.gaps.head? with
    | none => simp [head] at readFront
    | some fr =>
        simp only [head, Call.deref_some, Result.ok.injEq] at readFront
        rw [readFront.1]
  obtain ⟨_, s₅, aboveFront, afterCheck⟩ := Call.bind_eq_ok.mp afterFront
  rw [(Call.keeps_failIf _ _).ok aboveFront] at afterCheck
  have notBelow : ¬ offset + data.length ≤ front.start := fun below => by
    simp [below] at aboveFront
  obtain ⟨g, s₆, located, afterLocate⟩ := Call.bind_eq_ok.mp afterCheck
  have same₆ : s₆ = s := (locateGaps_keeps _ _ _).ok located
  rw [same₆] at located afterLocate
  obtain ⟨⟨f₁, replaced⟩, t, replacing, afterReplace⟩ := Call.bind_eq_ok.mp afterLocate
  obtain ⟨⟨f₂, gaps₁, adjusted⟩, t', cut, afterCut⟩ := Call.bind_eq_ok.mp afterReplace
  obtain ⟨same, startGap, present, cutEq⟩ := cutStart_ok cut
  rw [same] at afterCut
  obtain ⟨gaps₂, t₂, deleted, afterDelete⟩ := Call.bind_eq_ok.mp afterCut
  cases ending : cutEnd g adjusted f₂ gaps₂ with
  | mk f₃ gaps₃ =>
  rw [ending] at afterDelete
  exact ⟨front, g, f₁, replaced, t, startGap, f₂, gaps₁, adjusted, gaps₂, t₂, f₃, gaps₃, notEmpty,
    frontEq, notBelow, located, replacing, present, cutEq.symm, deleted, ending, afterDelete⟩

theorem isDuplicate_noError (gaps : List ByteInterval) (startGap : Nat) (endGap : Option Nat)
    («end» : Nat) : Call.NoError (isDuplicate gaps startGap endGap «end» : Call σ Bool) := by
  unfold isDuplicate
  refine (Call.noError_deref _).bind fun startGapValue => ?_
  refine Call.noError_ite _ (Call.noError_pure _) ?_
  exact (Call.noError_deref _).bind fun _ => Call.noError_pure _

theorem locateGaps_error {gaps : List ByteInterval} {start «end» : Nat} {s s' : σ} {e : String}
    (run : locateGaps gaps start «end» s = .error e s') :
    s' = s ∧ e = errDuplicateStreamData := by
  refine ⟨(locateGaps_keeps gaps start «end»).error run, ?_⟩
  unfold locateGaps at run
  rcases Call.bind_eq_error.mp run with first | ⟨⟨startGap, startsInGap⟩, s₁, _, run₁⟩
  · exact absurd first (Call.noError_orPanic _ _ _ _ _)
  rcases Call.bind_eq_error.mp run₁ with second | ⟨⟨endGap, endsInGap⟩, s₂, _, run₂⟩
  · exact absurd second (Call.noError_orPanic _ _ _ _ _)
  rcases Call.bind_eq_error.mp run₂ with third | ⟨duplicate, s₃, _, run₃⟩
  · exact absurd third (isDuplicate_noError _ _ _ _ _ _ _)
  rcases Call.bind_eq_error.mp run₃ with check | ⟨_, s₄, _, run₄⟩
  · -- the duplicate test is the only error `locateGaps` returns
    by_cases isDup : duplicate = true
    · simp only [Call.failIf_apply, isDup, if_true, Result.error.injEq] at check
      exact check.1.symm
    · simp [isDup] at check
  · have rest : Call.NoError (σ := σ) (Call.deref gaps[startGap]? >>= fun startGapValue => do
        let endGapIndex ← Call.deref endGap
        let endGapValue ← Call.deref gaps[endGapIndex]?
        pure
          { startGap, startsInGap, endGap := endGapIndex, endsInGap
            startGapEqualsEndGap := decide (endGap = some startGap)
            startGapNext := (LinkedList.ofList gaps).next startGap
            startGapEnd := startGapValue.«end»
            endGapStart := endGapValue.start
            endGapEnd := endGapValue.«end» } : Call σ PushGaps) :=
      (Call.noError_deref _).bind fun _ => (Call.noError_deref _).bind fun _ =>
        (Call.noError_deref _).bind fun _ => Call.noError_pure _
    exact absurd run₄ (rest _ _ _)

theorem deleteGaps_noError (endGapStart : Nat) (gap : Option Nat) (gaps : LinkedList ByteInterval)
    (s s' : FrameSorter α γ) (e : String) : deleteGaps endGapStart gap gaps s ≠ .error e s' := by
  induction gap, gaps, s using deleteGaps.induct endGapStart with
  | case1 gaps s => simp [deleteGaps]
  | case2 gaps s e' missing => rw [deleteGaps]; split <;> simp_all
  | case3 gaps s e' gap present before ih => rwa [deleteGaps_of_lt s endGapStart gaps e' present before]
  | case4 gaps s e' gap present reached =>
      rw [deleteGaps_of_not_lt s endGapStart gaps e' present reached]
      simp

theorem deleteBetween_noError (g : PushGaps) (gaps : LinkedList ByteInterval) :
    Call.NoError (deleteBetween g gaps : Call (FrameSorter α γ) (LinkedList ByteInterval)) := by
  intro s e s'
  unfold deleteBetween
  by_cases equal : g.startGapEqualsEndGap = true
  · simp [equal]
  · rw [if_neg equal]
    exact deleteGaps_noError _ _ _ _ s' e

theorem cutStart_noError (g : PushGaps) (replaced : Bool) (f : PushFrame α)
    (gaps : LinkedList ByteInterval) :
    Call.NoError (cutStart g replaced f gaps : Call σ (PushFrame α × LinkedList ByteInterval × Bool)) :=
  (Call.noError_deref _).bind fun _ => Call.noError_pure _

theorem push_error_steps {data : List α} {offset : Nat} {doneCb : Option γ}
    {s s' : FrameSorter α γ} {e : String} (run : push data offset doneCb s = .error e s') :
    (e = errDuplicateStreamData ∧ s' = s ∧
      (data.length = 0 ∨ (∃ front, s.gaps.head? = some front ∧ offset + data.length ≤ front.start) ∨
        locateGaps s.gaps offset (offset + data.length) s = .error e s ∨
        ∃ g, locateGaps s.gaps offset (offset + data.length) s = .ok g s ∧
          replaceFrames ⟨data, offset, offset + data.length, false⟩ offset false s = .error e s)) ∨
    ∃ g f₁ replaced t startGap f₂ gaps₁ adjusted gaps₂ t₂ f₃ gaps₃,
      locateGaps s.gaps offset (offset + data.length) s = .ok g s ∧
      replaceFrames ⟨data, offset, offset + data.length, false⟩ offset false s = .ok (f₁, replaced) t ∧
      (LinkedList.ofList s.gaps).value? g.startGap = some startGap ∧
      cutStartAt startGap g replaced f₁ (LinkedList.ofList s.gaps) = (f₂, gaps₁, adjusted) ∧
      deleteBetween g gaps₁ t = .ok gaps₂ t₂ ∧
      cutEnd g adjusted f₂ gaps₂ = (f₃, gaps₃) ∧
      store f₃ doneCb gaps₃ t₂ = .error e s' := by
  unfold push at run
  rcases Call.bind_eq_error.mp run with empty | ⟨_, s₁, nonempty, afterEmpty⟩
  · by_cases isEmpty : data.length = 0
    · simp only [Call.failIf_apply, isEmpty, if_true, Result.error.injEq] at empty
      exact .inl ⟨empty.1.symm, empty.2.symm, .inl isEmpty⟩
    · simp [isEmpty] at empty
  rw [(Call.keeps_failIf _ _).ok nonempty] at afterEmpty
  rcases Call.bind_eq_error.mp afterEmpty with getFails | ⟨s₂, s₃, read, afterGet⟩
  · cases getFails
  simp only [Call.get_apply, Result.ok.injEq] at read
  rw [← read.1, ← read.2] at afterGet
  rcases Call.bind_eq_error.mp afterGet with frontFails | ⟨front, s₄, readFront, afterFront⟩
  · exact absurd frontFails (Call.noError_deref _ _ _ _)
  rw [(Call.keeps_deref _).ok readFront] at afterFront
  have frontEq : s.gaps.head? = some front := by
    cases head : s.gaps.head? with
    | none => simp [head] at readFront
    | some fr =>
        simp only [head, Call.deref_some, Result.ok.injEq] at readFront
        rw [readFront.1]
  rcases Call.bind_eq_error.mp afterFront with below | ⟨_, s₅, aboveFront, afterCheck⟩
  · by_cases isBelow : offset + data.length ≤ front.start
    · simp only [Call.failIf_apply, isBelow, if_true, Result.error.injEq] at below
      exact .inl ⟨below.1.symm, below.2.symm, .inr (.inl ⟨front, frontEq, isBelow⟩)⟩
    · simp [isBelow] at below
  rw [(Call.keeps_failIf _ _).ok aboveFront] at afterCheck
  rcases Call.bind_eq_error.mp afterCheck with locating | ⟨g, s₆, located, afterLocate⟩
  · obtain ⟨same, isDup⟩ := locateGaps_error locating
    rw [same] at locating
    exact .inl ⟨isDup, same, .inr (.inr (.inl locating))⟩
  have same₆ : s₆ = s := (locateGaps_keeps _ _ _).ok located
  rw [same₆] at located afterLocate
  rcases Call.bind_eq_error.mp afterLocate with replacing | ⟨⟨f₁, replaced⟩, t, replacedOk, afterReplace⟩
  · obtain ⟨-, same, isDup⟩ := replaceFrames_error replacing
    rw [same] at replacing
    exact .inl ⟨isDup, same, .inr (.inr (.inr ⟨g, located, replacing⟩))⟩
  rcases Call.bind_eq_error.mp afterReplace with cutting | ⟨⟨f₂, gaps₁, adjusted⟩, t', cut, afterCut⟩
  · exact absurd cutting (cutStart_noError _ _ _ _ _ _ _)
  obtain ⟨same, startGap, present, cutEq⟩ := cutStart_ok cut
  rw [same] at afterCut
  rcases Call.bind_eq_error.mp afterCut with deleting | ⟨gaps₂, t₂, deleted, afterDelete⟩
  · exact absurd deleting (deleteBetween_noError _ _ _ _ _)
  cases ending : cutEnd g adjusted f₂ gaps₂ with
  | mk f₃ gaps₃ =>
  rw [ending] at afterDelete
  exact .inr ⟨g, f₁, replaced, t, startGap, f₂, gaps₁, adjusted, gaps₂, t₂, f₃, gaps₃, located,
    replacedOk, present, cutEq.symm, deleted, ending, afterDelete⟩

/-- Data that ends at `MaxByteCount` makes `Push` panic.  `findEndGap` looks
for the gap whose half-open range holds the end of the data, and the last gap's
range stops just below `MaxByteCount`: the loop runs off the list. -/
theorem Push_panics_at_maxByteCount (s : FrameSorter α γ) (wellFormed : WellFormedGaps s.gaps)
    (data : List α) (offset : Nat) (doneCb : Option γ) (nonempty : data ≠ [])
    (endsAtMax : offset + data.length = maxByteCount) :
    Push data offset doneCb s = .panic noGapFound := by
  have bounded := wellFormed.bounded
  obtain ⟨front, rest, gapsEq⟩ := List.exists_cons_of_ne_nil wellFormed.ne_nil
  have frontBounded := bounded front (by simp [gapsEq])
  have dataLen : data.length ≠ 0 := by simpa using nonempty
  obtain ⟨last, lastMember, lastEnd⟩ := wellFormed.exists_last
  obtain ⟨⟨startGap, startsInGap⟩, foundStart⟩ := Option.isSome_iff_exists.mp
    (findStartGapFrom_isSome offset s.gaps 0 ⟨last, lastMember, by omega⟩)
  have noEndGap : findEndGap s.gaps startGap (offset + data.length) = none := by
    rw [endsAtMax]
    exact findEndGapFrom_eq_none _ _ _ fun g member =>
      have := bounded g (List.mem_of_mem_drop member)
      ⟨by omega, this.2⟩
  have notBelowFront : ¬ offset + data.length ≤ front.start := by omega
  simp only [Push, push, locateGaps, findStartGap, Call.handle_apply, Call.bind_apply,
    Call.failIf_apply, dataLen, notBelowFront, if_false, Call.get_apply, gapsEq, List.head?_cons,
    Call.deref_some]
  rw [← gapsEq, foundStart]
  simp only [Call.orPanic_some, noEndGap, Call.orPanic_none]

/-- One byte at offset `MaxByteCount - 1`, pushed into a new frame sorter. -/
theorem Push_panics_at_maxByteCount_newFrameSorter :
    WellFormedGaps (newFrameSorter : FrameSorter UInt8 Unit).gaps ∧ [(0 : UInt8)] ≠ [] ∧
      maxByteCount - 1 + [(0 : UInt8)].length = maxByteCount ∧
      Push [(0 : UInt8)] (maxByteCount - 1) (none : Option Unit) newFrameSorter = .panic noGapFound :=
  ⟨by decide, by simp, by decide,
    Push_panics_at_maxByteCount newFrameSorter (by decide) [0] (maxByteCount - 1) none (by simp)
      (by decide)⟩

theorem store_error_tooManyGaps {f : PushFrame α} {doneCb : Option γ} {gaps : LinkedList ByteInterval}
    {s s' : FrameSorter α γ} {e : String} (run : store f doneCb gaps s = .error e s') :
    gaps.len > maxStreamFrameSorterGaps := by
  by_contra withinLimit
  simp [store, callDone, withinLimit] at run

/-! ## A failed `Push`

Only the split of a gap in two adds a gap.  From a gap list within the limit,
`push` fails only after such a split: a frame that starts and ends inside one
gap, replaces nothing and is not cut. -/

theorem replaceFrames_of_unreplaced {f f' : PushFrame α} {pos : Nat} {replaced : Bool} {s t : FrameSorter α γ}
    (run : replaceFrames f pos replaced s = .ok (f', false) t) : replaced = false ∧ f' = f ∧ t = s := by
  induction pos, replaced, s using replaceFrames.induct f with
  | case1 pos replaced s found =>
      rw [replaceFrames_of_none f pos replaced s found] at run
      simp only [Result.ok.injEq, Prod.mk.injEq] at run
      obtain ⟨⟨rfl, rfl⟩, rfl⟩ := run
      exact ⟨rfl, rfl, rfl⟩
  | case2 pos replaced s oldEntry found _ longer ih =>
      rw [replaceFrames_of_some f pos replaced s found, if_pos longer] at run
      exact absurd (ih run).1 (by simp)
  | case3 pos replaced s oldEntry found _ notLonger first =>
      rw [replaceFrames_of_some f pos replaced s found, if_neg notLonger, if_pos first] at run
      cases run
  | case4 pos replaced s oldEntry found _ notLonger later =>
      rw [replaceFrames_of_some f pos replaced s found, if_neg notLonger, if_neg later] at run
      simp only [Result.ok.injEq, Prod.mk.injEq] at run
      exact absurd run.1.2 (by simp)

theorem cutStartAt_len {startGap : ByteInterval} {g : PushGaps} {replaced : Bool} {f f' : PushFrame α}
    {gaps gaps' : LinkedList ByteInterval} {adjusted : Bool}
    (cut : cutStartAt startGap g replaced f gaps = (f', gaps', adjusted)) :
    gaps'.len ≤ gaps.len ∧ (adjusted = true → replaced = false ∧ f' = f ∧ gaps'.len = gaps.len) := by
  unfold cutStartAt at cut
  by_cases cutBack : (!g.startsInGap && !replaced) = true
  · -- a frame cut back to the start gap starts where the gap does
    rw [if_pos cutBack] at cut
    simp only [le_refl, if_true] at cut
    split_ifs at cut <;> simp only [Prod.mk.injEq] at cut <;> obtain ⟨rfl, rfl, rfl⟩ := cut
    · exact ⟨LinkedList.len_remove_le _ _, nofun⟩
    · exact ⟨(LinkedList.len_modifyValue _ _ _).le, nofun⟩
  · rw [if_neg cutBack] at cut
    dsimp only at cut
    split_ifs at cut with before covers notReplaced <;> simp only [Prod.mk.injEq] at cut <;>
      obtain ⟨rfl, rfl, rfl⟩ := cut
    · exact ⟨LinkedList.len_remove_le _ _, nofun⟩
    · exact ⟨(LinkedList.len_modifyValue _ _ _).le, nofun⟩
    · exact ⟨(LinkedList.len_modifyValue _ _ _).le,
        fun _ => ⟨by simpa using notReplaced, rfl, LinkedList.len_modifyValue _ _ _⟩⟩
    · exact ⟨le_refl _, nofun⟩

theorem cutEnd_len {g : PushGaps} {adjusted : Bool} {f f' : PushFrame α} {gaps gaps' : LinkedList ByteInterval}
    (cut : cutEnd g adjusted f gaps = (f', gaps')) :
    gaps'.len ≤ gaps.len ∨
      (g.startGapEqualsEndGap = true ∧ adjusted = true ∧ f' = f ∧ gaps'.len = gaps.len + 1) := by
  unfold cutEnd at cut
  by_cases cutBack : (!g.endsInGap && decide (f.start ≠ g.endGapEnd) && decide (f.«end» > g.endGapEnd)) = true
  · -- a frame cut back to the end gap ends where the gap does
    rw [if_pos cutBack] at cut
    simp only [if_true, Prod.mk.injEq] at cut
    obtain ⟨rfl, rfl⟩ := cut
    refine .inl ?_
    split_ifs
    · exact LinkedList.len_remove_le _ _
    · exact le_refl _
  · rw [if_neg cutBack] at cut
    dsimp only at cut
    split_ifs at cut with ends unequal splits unequal' <;> simp only [Prod.mk.injEq] at cut <;>
      obtain ⟨rfl, rfl⟩ := cut
    · exact .inl (LinkedList.len_remove_le _ _)
    · exact .inl (le_refl _)
    · simp only [Bool.and_eq_true] at splits
      exact .inr ⟨splits.1, splits.2, rfl, LinkedList.len_insertAfter _ _ _⟩
    · exact .inl (LinkedList.len_modifyValue _ _ _).le
    · exact .inl (le_refl _)

theorem deleteGaps_len {endGapStart : Nat} {gap : Option Nat} {gaps gaps' : LinkedList ByteInterval}
    {s t : FrameSorter α γ} (run : deleteGaps endGapStart gap gaps s = .ok gaps' t) : gaps'.len ≤ gaps.len := by
  induction gap, gaps, s using deleteGaps.induct endGapStart with
  | case1 gaps s => simp [deleteGaps] at run
  | case2 gaps s e missing =>
      rw [deleteGaps] at run
      split at run <;> simp_all
  | case3 gaps s e gap present before ih =>
      rw [deleteGaps_of_lt s endGapStart gaps e present before] at run
      exact (ih run).trans (LinkedList.len_remove_le _ _)
  | case4 gaps s e gap present reached =>
      rw [deleteGaps_of_not_lt s endGapStart gaps e present reached] at run
      simp only [Result.ok.injEq] at run
      rw [run.1]

theorem deleteBetween_len {g : PushGaps} {gaps gaps' : LinkedList ByteInterval} {s t : FrameSorter α γ}
    (run : deleteBetween g gaps s = .ok gaps' t) :
    gaps'.len ≤ gaps.len ∧ (g.startGapEqualsEndGap = true → gaps' = gaps ∧ t = s) := by
  unfold deleteBetween at run
  by_cases equal : g.startGapEqualsEndGap = true
  · rw [if_pos equal] at run
    simp only [Result.ok.injEq] at run
    obtain ⟨rfl, rfl⟩ := run
    exact ⟨le_refl _, fun _ => ⟨rfl, rfl⟩⟩
  · rw [if_neg equal] at run
    exact ⟨deleteGaps_len run, fun isEqual => absurd isEqual equal⟩

/-- A `Push` that fails the DoS check leaves the queue, the read position and
the callbacks as they were, but not the gaps: `push` stores the new gap list,
with the gap the data fell into split in two, before it checks its length.
From every state within the limit, as every state successful pushes and pops
reach is, that is the only error `Push` returns. -/
theorem Push_error_keeps_new_gaps (s : FrameSorter α γ) (withinLimit : s.gaps.length ≤ maxStreamFrameSorterGaps)
    (data : List α) (offset : Nat) (doneCb : Option γ) :
    ∀ e s', Push data offset doneCb s = .error e s' →
      e = errTooManyGaps ∧ s' = { s with gaps := s'.gaps } ∧ s'.gaps.length = s.gaps.length + 1 ∧
        maxStreamFrameSorterGaps < s'.gaps.length := by
  intro e s' run
  simp only [Push, Call.handle_apply] at run
  cases pushed : push data offset doneCb s with
  | ok _ t => simp [pushed] at run
  | panic m => simp [pushed] at run
  | error e₀ t =>
    rw [pushed] at run
    by_cases duplicate : e₀ = errDuplicateStreamData
    · simp [duplicate, callDone] at run
    simp only [duplicate, if_false, Call.fail, Result.error.injEq] at run
    obtain ⟨rfl, rfl⟩ := run
    rcases push_error_steps pushed with ⟨isDuplicate, -⟩ | ⟨g, f₁, replaced, t₁, startGap, f₂, gaps₁, adjusted,
      gaps₂, t₂, f₃, gaps₃, -, replacing, -, cutStart, deleted, cutEnd', stored⟩
    · exact absurd isDuplicate duplicate
    obtain ⟨tooMany, after⟩ := store_error stored
    have pastLimit := store_error_tooManyGaps stored
    have startLen := cutStartAt_len cutStart
    have betweenLen := deleteBetween_len deleted
    have listLen := LinkedList.len_ofList s.gaps
    rcases cutEnd_len cutEnd' with shorter | ⟨equal, adjustedEnd, sameFrame, oneMore⟩
    · omega
    obtain ⟨unreplaced, f₂eq, gaps₁len⟩ := startLen.2 adjustedEnd
    rw [unreplaced] at replacing
    obtain ⟨-, f₁eq, t₁eq⟩ := replaceFrames_of_unreplaced replacing
    obtain ⟨gaps₂eq, t₂eq⟩ := betweenLen.2 equal
    have notCopied : f₃.copied = false := by
      rw [sameFrame, f₂eq, f₁eq]
      rfl
    rw [after, notCopied, t₂eq, t₁eq]
    refine ⟨tooMany, by simp, ?_, pastLimit⟩
    show gaps₃.len = s.gaps.length + 1
    rw [oneMore, gaps₂eq, gaps₁len, listLen]
/-- The frames and gaps a frame sorter holds after the first thousand pushes of
six bytes, seven bytes apart. -/
def sixByteFrames : FrameSorter UInt8 Unit where
  queue :=
    ⟨(List.range 1000).map fun i => ⟨7 * i, ⟨[102, 111, 111, 98, 97, 114], none⟩⟩, by
      rw [List.NodupKeys, List.keys, List.map_map]
      exact List.nodup_range.map fun i j same => by simpa using same⟩
  readPos := 0
  gaps := (List.range 999).map (fun i => ⟨7 * i + 6, 7 * i + 7⟩) ++ [⟨6999, maxByteCount⟩]
  called := []

/-- The push of the DoS test after those: six bytes at offset 7100 split the
last gap. -/
theorem Push_error_keeps_new_gaps_sixByteFrames :
    sixByteFrames.gaps.length ≤ maxStreamFrameSorterGaps ∧
      (Push [102, 111, 111, 98, 97, 114] 7100 none sixByteFrames matches .error _ _) = true ∧
      ∀ e s', Push [102, 111, 111, 98, 97, 114] 7100 none sixByteFrames = .error e s' →
        e = errTooManyGaps ∧ s' = { sixByteFrames with gaps := s'.gaps } ∧
          s'.gaps.length = sixByteFrames.gaps.length + 1 ∧ maxStreamFrameSorterGaps < s'.gaps.length := by
  have withinLimit : sixByteFrames.gaps.length ≤ maxStreamFrameSorterGaps := by decide +kernel
  have fails : (Push [102, 111, 111, 98, 97, 114] 7100 none sixByteFrames matches .error _ _) = true := by
    decide +kernel
  exact ⟨withinLimit, fails, Push_error_keeps_new_gaps sixByteFrames withinLimit [102, 111, 111, 98, 97, 114] 7100 none⟩

/-- The push splits the last gap: the gap list grows past the limit. -/
theorem Push_sixByteFrames_splits_gap :
    ∃ s', Push [102, 111, 111, 98, 97, 114] 7100 none sixByteFrames = .error errTooManyGaps s' ∧
      s'.gaps.length = sixByteFrames.gaps.length + 1 := by
  have failed : (Push [102, 111, 111, 98, 97, 114] 7100 none sixByteFrames).error? = some errTooManyGaps := by
    decide +kernel
  have split : (Push [102, 111, 111, 98, 97, 114] 7100 none sixByteFrames).state?.map (·.gaps.length) =
      some 1001 := by
    decide +kernel
  have before : sixByteFrames.gaps.length = 1000 := by decide +kernel
  cases run : Push [102, 111, 111, 98, 97, 114] 7100 none sixByteFrames with
  | ok _ _ => simp [run, Result.error?] at failed
  | panic _ => simp [run, Result.error?] at failed
  | error e s' =>
    simp only [run, Result.error?, Option.some.injEq, Result.state?, Option.map_some] at failed split
    exact ⟨s', by rw [failed], by rw [split, before]⟩

end FrameSorter

end QuicFec
