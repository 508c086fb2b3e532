import QuicFec.Lib.Go
import QuicFec.Lib.RingWindow

/-! # The ring buffer

`internal/utils/ringbuffer`: the queue behind the framer's stream queue, the
datagram queue and the FEC repair queue.  The slice `ring` holds the queue from
`headPos` on, wrapping round its end, up to `tailPos`; `full` tells a full
ring from an empty one, where the two positions meet.  `PushBack` on a full
ring first grows it to twice its size, copying the queue to the front of the
new ring in its two pieces.

The queue a ring buffer holds is the `Len` cells from `headPos` on
(`contents`).  Each call keeps the positions inside the ring (`Valid`) and
does to that queue what the call of the same name does to a FIFO queue of
lists (`Op.fifo`), so along every run that pops and peeks only a non-empty
queue, from the zero value or after `Init`, the ring buffer returns what the
list queue returns (`ringBuffer_fifo`).

Go's zero value of `T` is `default`, and the positions, `int`s that stay
non-negative, are `Nat`s. -/
set_option autoImplicit false

namespace QuicFec.Utils

open Go

structure RingBuffer (T : Type) where
  ring : List T
  headPos : Nat
  tailPos : Nat
  full : Bool
deriving DecidableEq, Repr

namespace RingBuffer

variable {T : Type}

/-- The zero value `RingBuffer[T]{}`. -/
def zero : RingBuffer T := ⟨[], 0, 0, false⟩

/-- `RingBuffer.Init`: a ring of `size` zero values; the positions are left as they are. -/
def init [Inhabited T] (size : Nat) : Call (RingBuffer T) Unit :=
  Call.modify fun r => { r with ring := List.replicate size default }

/-- `RingBuffer.Len`; the `int` sum `tailPos - headPos + len(ring)` is taken in
an order that stays in `Nat`. -/
def len (r : RingBuffer T) : Nat :=
  if r.full then r.ring.length
  else if r.tailPos ≥ r.headPos then r.tailPos - r.headPos
  else r.tailPos + r.ring.length - r.headPos

def empty (r : RingBuffer T) : Bool := !r.full && r.headPos == r.tailPos

/-- `RingBuffer.grow`: a ring twice the size, or of one cell, with
`oldRing[headPos:]` and then `oldRing[:headPos]` copied to its front. -/
def grow [Inhabited T] : Call (RingBuffer T) Unit := fun r =>
  if r.headPos > r.ring.length then .panic "runtime error: slice bounds out of range"
  else
    let newSize := if r.ring.length * 2 = 0 then 1 else r.ring.length * 2
    .ok () ⟨r.ring.drop r.headPos ++ r.ring.take r.headPos ++ List.replicate (newSize - r.ring.length) default,
      0, r.ring.length, false⟩

def pushBack [Inhabited T] (t : T) : Call (RingBuffer T) Unit := do
  let r ← Call.get
  if r.full || r.ring.length == 0 then grow
  let r ← Call.get
  let ring ← setIndex r.ring r.tailPos t
  let tailPos := if r.tailPos + 1 = r.ring.length then 0 else r.tailPos + 1
  Call.set { r with ring, tailPos, full := if tailPos = r.headPos then true else r.full }

/-- `RingBuffer.PopFront`; the cell it reads is zeroed. -/
def popFront [Inhabited T] : Call (RingBuffer T) T := do
  let r ← Call.get
  if r.empty then Call.panic "github.com/quic-go/quic-go/internal/utils/ringbuffer: pop from an empty queue"
  let t ← index r.ring r.headPos
  let ring ← setIndex r.ring r.headPos default
  let headPos := if r.headPos + 1 = r.ring.length then 0 else r.headPos + 1
  Call.set { r with ring, headPos, full := false }
  pure t

def peekFront [Inhabited T] : Call (RingBuffer T) T := do
  let r ← Call.get
  if r.empty then Call.panic "github.com/quic-go/quic-go/internal/utils/ringbuffer: peek from an empty queue"
  index r.ring r.headPos

/-- `RingBuffer.Clear`: every cell zeroed, the ring kept. -/
def clear [Inhabited T] : Call (RingBuffer T) Unit :=
  Call.modify fun r => ⟨List.replicate r.ring.length default, 0, 0, false⟩

/-! ## The queue a ring buffer implements -/

/-- A call on a ring buffer. -/
inductive Op (T : Type) where
  | pushBack (t : T)
  | popFront
  | peekFront
  | clear
  | len
  | empty
deriving DecidableEq, Repr

/-- What a call returns. -/
inductive Reply (T : Type) where
  | done
  | elem (t : T)
  | len (n : Nat)
  | empty (isEmpty : Bool)
deriving DecidableEq, Repr

/-- The call on a FIFO queue of lists; `none` for a pop or a peek of an empty
queue, which callers must not make. -/
def Op.fifo : Op T → List T → Option (Reply T × List T)
  | .pushBack t, q => some (.done, q ++ [t])
  | .popFront, [] => none
  | .popFront, x :: q => some (.elem x, q)
  | .peekFront, [] => none
  | .peekFront, x :: q => some (.elem x, x :: q)
  | .clear, _ => some (.done, [])
  | .len, q => some (.len q.length, q)
  | .empty, q => some (.empty q.isEmpty, q)

/-- A run of calls on a FIFO queue of lists. -/
def fifoRun : List (Op T) → List T → Option (List (Reply T) × List T)
  | [], q => some ([], q)
  | op :: ops, q =>
    match op.fifo q with
    | none => none
    | some (a, q') => (fifoRun ops q').map fun (as, q'') => (a :: as, q'')

/-- The call on a ring buffer. -/
def step [Inhabited T] : Op T → Call (RingBuffer T) (Reply T)
  | .pushBack t => do pushBack t; pure .done
  | .popFront => do let t ← popFront; pure (.elem t)
  | .peekFront => do let t ← peekFront; pure (.elem t)
  | .clear => do clear; pure .done
  | .len => do let r ← Call.get; pure (.len r.len)
  | .empty => do let r ← Call.get; pure (.empty r.empty)

/-- A run of calls on a ring buffer. -/
def run [Inhabited T] : List (Op T) → Call (RingBuffer T) (List (Reply T))
  | [] => pure []
  | op :: ops => do
    let a ← step op
    let as ← run ops
    pure (a :: as)

/-! ## The queue a ring buffer holds -/

/-- The `Len` cells from `headPos` on. -/
def contents [Inhabited T] (r : RingBuffer T) : List T := RingWindow.window r.ring r.headPos r.len

@[simp] theorem length_contents [Inhabited T] (r : RingBuffer T) : r.contents.length = r.len :=
  RingWindow.length_window _ _ _

/-- The positions lie inside the ring, or at zero in a ring of no cells, and
meet when the ring is full. -/
structure Valid (r : RingBuffer T) : Prop where
  headPos_lt : r.headPos < r.ring.length ∨ r.ring.length = 0 ∧ r.headPos = 0
  tailPos_lt : r.tailPos < r.ring.length ∨ r.ring.length = 0 ∧ r.tailPos = 0
  full_meet : r.full = true → r.headPos = r.tailPos ∧ 0 < r.ring.length

theorem startsEmpty [Inhabited T] (cells : List T) :
    (⟨cells, 0, 0, false⟩ : RingBuffer T).Valid ∧ (⟨cells, 0, 0, false⟩ : RingBuffer T).contents = [] := by
  refine ⟨?_, rfl⟩
  rcases Nat.eq_zero_or_pos cells.length with unallocated | allocated
  · exact ⟨.inr ⟨unallocated, rfl⟩, .inr ⟨unallocated, rfl⟩, nofun⟩
  · exact ⟨.inl allocated, .inl allocated, nofun⟩

section Valid

variable {r : RingBuffer T} (valid : r.Valid)
include valid

theorem len_le : r.len ≤ r.ring.length := by
  have := valid.headPos_lt
  have := valid.tailPos_lt
  unfold len
  split_ifs <;> omega

theorem len_lt (notFull : r.full = false) (allocated : 0 < r.ring.length) : r.len < r.ring.length := by
  have := valid.headPos_lt
  have := valid.tailPos_lt
  unfold len
  simp only [notFull, Bool.false_eq_true, if_false]
  split_ifs <;> omega

theorem tailPos_eq_index (allocated : 0 < r.ring.length) : r.tailPos = RingWindow.index r.headPos r.len r.ring.length := by
  have := valid.headPos_lt
  have := valid.tailPos_lt
  unfold len RingWindow.index
  cases full : r.full
  · simp only [Bool.false_eq_true, if_false]
    split_ifs <;> omega
  · have meet := valid.full_meet full
    simp only [if_true]
    split_ifs <;> omega

theorem headPos_lt (nonEmpty : 0 < r.len) : r.headPos < r.ring.length := by
  have := valid.headPos_lt
  have := len_le valid
  omega

theorem len_eq_zero_iff : r.len = 0 ↔ r.empty = true := by
  have := valid.headPos_lt
  have := valid.tailPos_lt
  unfold len empty
  cases full : r.full
  · simp only [if_false, Bool.not_false, Bool.true_and, beq_iff_eq, Bool.false_eq_true]
    split_ifs <;> omega
  · have meet := valid.full_meet full
    simp only [if_true, Bool.not_true, Bool.false_and, Bool.false_eq_true, iff_false]
    omega

end Valid

/-! ## Each call on the queue -/

theorem grow_spec [Inhabited T] {r : RingBuffer T} (valid : r.Valid) (needed : r.full = true ∨ r.ring.length = 0) :
    ∃ r', grow r = .ok () r' ∧ r'.Valid ∧ r'.full = false ∧ r'.len < r'.ring.length ∧ r'.contents = r.contents := by
  have headFits := valid.headPos_lt
  have queueLen : r.len = r.ring.length := by
    rcases needed with full | unallocated
    · simp [len, full]
    · have := len_le valid
      omega
  refine ⟨_, by rw [grow, if_neg (by omega)], ?_, rfl, ?_, ?_⟩
  · refine ⟨.inl ?_, .inl ?_, nofun⟩ <;> simp only [List.length_append, List.length_drop, List.length_take,
      List.length_replicate] <;> split_ifs <;> omega
  · simp only [len, Bool.false_eq_true, if_false, List.length_append, List.length_drop, List.length_take,
      List.length_replicate]
    split_ifs <;> omega
  · -- the queue is the old ring rotated to start at the head, now at the front
    unfold contents
    rw [queueLen]
    simp only [len, Bool.false_eq_true, if_false, Nat.zero_le, if_true, Nat.sub_zero, ge_iff_le]
    rcases Nat.eq_zero_or_pos r.ring.length with unallocated | allocated
    · rw [unallocated]
      rfl
    have newLength : (r.ring.drop r.headPos ++ r.ring.take r.headPos ++
        List.replicate ((if r.ring.length * 2 = 0 then 1 else r.ring.length * 2) - r.ring.length) default).length =
        r.ring.length * 2 := by
      simp only [List.length_append, List.length_drop, List.length_take, List.length_replicate]
      split_ifs <;> omega
    rw [RingWindow.window_length _ (by omega), RingWindow.window_eq_take _ (by omega) _ (by omega),
      List.drop_zero, List.take_zero, List.append_nil, List.take_append_of_le_length (by simp; omega),
      List.take_of_length_le (by simp; omega)]

/-- What `PushBack` leaves once the ring has room: `t` at the tail, and the
tail one cell on, full when it meets the head. -/
def storeTail (t : T) (r : RingBuffer T) : RingBuffer T :=
  let tailPos := if r.tailPos + 1 = r.ring.length then 0 else r.tailPos + 1
  { r with ring := r.ring.set r.tailPos t, tailPos, full := if tailPos = r.headPos then true else r.full }

section Room

variable {r : RingBuffer T} (valid : r.Valid) (notFull : r.full = false) (room : r.len < r.ring.length)
include valid notFull room

theorem storeTail_valid (t : T) : (storeTail t r).Valid := by
  have headIn := valid.headPos_lt
  have tailIn := valid.tailPos_lt
  have := len_le valid
  refine ⟨?_, ?_, ?_⟩ <;>
    simp only [storeTail, List.length_set, notFull, Bool.if_true_left, Bool.or_false, decide_eq_true_eq]
  · omega
  · split_ifs <;> omega
  · intro meets
    split_ifs at meets ⊢ <;> omega

theorem len_storeTail (t : T) : (storeTail t r).len = r.len + 1 := by
  have headIn := valid.headPos_lt
  have tailIn := valid.tailPos_lt
  unfold len at room ⊢
  simp only [storeTail, List.length_set, notFull, Bool.if_true_left, Bool.or_false, decide_eq_true_eq,
    Bool.false_eq_true, if_false] at room ⊢
  split_ifs at room ⊢ <;> omega

theorem contents_storeTail [Inhabited T] (t : T) : (storeTail t r).contents = r.contents ++ [t] := by
  have headIn : r.headPos < r.ring.length := by
    have := valid.headPos_lt
    omega
  have tailAt := tailPos_eq_index valid (by omega)
  rw [contents, len_storeTail valid notFull room, contents]
  simp only [storeTail]
  rw [tailAt]
  exact RingWindow.window_set_next _ t headIn room

end Room

theorem pushBack_spec [Inhabited T] {r : RingBuffer T} (valid : r.Valid) (t : T) :
    ∃ r', pushBack t r = .ok () r' ∧ r'.Valid ∧ r'.contents = r.contents ++ [t] := by
  by_cases needed : (r.full || r.ring.length == 0) = true
  · -- a full or unallocated ring grows first, into a ring with room holding the same queue
    obtain ⟨r₁, grown, valid₁, notFull, room, same⟩ := grow_spec valid (by simpa using needed)
    have tailIn : r₁.tailPos < r₁.ring.length := by
      have := valid₁.tailPos_lt
      omega
    refine ⟨storeTail t r₁, ?_, storeTail_valid valid₁ notFull room t, ?_⟩
    · simp only [pushBack, needed, if_true, Call.bind_apply, grown, Call.get_apply, setIndex_apply_of_lt _ _ tailIn,
        Call.set_apply]
      rfl
    · rw [contents_storeTail valid₁ notFull room, same]
  · have notNeeded : r.full = false ∧ ¬ r.ring.length = 0 := by simpa using needed
    have room := len_lt valid notNeeded.1 (by omega)
    have tailIn : r.tailPos < r.ring.length := by
      have := valid.tailPos_lt
      omega
    refine ⟨storeTail t r, ?_, storeTail_valid valid notNeeded.1 room t, contents_storeTail valid notNeeded.1 room t⟩
    simp only [pushBack, needed, Bool.false_eq_true, if_false, Call.bind_apply, Call.get_apply,
      setIndex_apply_of_lt _ _ tailIn, Call.set_apply]
    rfl

/-- What `PopFront` leaves: the head cell zeroed, and the head one cell on. -/
def dropHead [Inhabited T] (r : RingBuffer T) : RingBuffer T :=
  { r with
    ring := r.ring.set r.headPos default
    headPos := if r.headPos + 1 = r.ring.length then 0 else r.headPos + 1
    full := false }

section NonEmpty

variable [Inhabited T] {r : RingBuffer T} (valid : r.Valid) (nonEmpty : 0 < r.len)
include valid nonEmpty

theorem headPos_dropHead : (dropHead r).headPos = RingWindow.index r.headPos 1 r.ring.length := by
  have := headPos_lt valid nonEmpty
  simp only [dropHead, RingWindow.index]
  split_ifs <;> omega

theorem dropHead_valid : (dropHead r).Valid := by
  have := headPos_lt valid nonEmpty
  have := valid.tailPos_lt
  refine ⟨.inl ?_, ?_, nofun⟩ <;> simp only [dropHead, List.length_set]
  · split_ifs <;> omega
  · exact this

theorem len_dropHead : (dropHead r).len = r.len - 1 := by
  have := headPos_lt valid nonEmpty
  have := valid.tailPos_lt
  have meet := valid.full_meet
  unfold len at nonEmpty ⊢
  simp only [dropHead, List.length_set, Bool.false_eq_true, if_false] at nonEmpty ⊢
  cases full : r.full
  · simp only [full, Bool.false_eq_true, if_false] at nonEmpty ⊢
    split_ifs at nonEmpty ⊢ <;> omega
  · have := meet full
    simp only [if_true]
    split_ifs <;> omega

theorem contents_eq_cons : r.contents = r.ring.getD r.headPos default :: (dropHead r).contents := by
  have inRing := headPos_lt valid nonEmpty
  have := len_le valid
  have rest : r.len = r.len - 1 + 1 := by omega
  rw [contents, rest, RingWindow.window_succ _ inRing (by omega), contents, len_dropHead valid nonEmpty,
    headPos_dropHead valid nonEmpty]
  simp only [dropHead]
  rw [RingWindow.window_set_outside]
  intro offset before
  rw [RingWindow.index_index_one inRing (by omega)]
  conv => lhs; rw [← RingWindow.index_zero inRing]
  exact RingWindow.index_ne (Nat.succ_pos offset) (by omega)

end NonEmpty

theorem front_of_contents [Inhabited T] {r : RingBuffer T} (valid : r.Valid) {x : T} {xs : List T}
    (queue : r.contents = x :: xs) :
    0 < r.len ∧ r.empty = false ∧ x = r.ring.getD r.headPos default ∧ (dropHead r).contents = xs := by
  have nonEmpty : 0 < r.len := by
    have := congrArg List.length queue
    rw [length_contents, List.length_cons] at this
    omega
  have notEmpty : r.empty = false := by
    have := (len_eq_zero_iff valid).not.mp (by omega)
    simpa using this
  obtain ⟨first, rest⟩ := List.cons.inj ((contents_eq_cons valid nonEmpty).symm.trans queue)
  exact ⟨nonEmpty, notEmpty, first.symm, rest⟩

theorem popFront_spec [Inhabited T] {r : RingBuffer T} (valid : r.Valid) {x : T} {xs : List T}
    (popped : r.contents = x :: xs) :
    popFront r = .ok x (dropHead r) ∧ (dropHead r).Valid ∧ (dropHead r).contents = xs := by
  obtain ⟨nonEmpty, notEmpty, first, rest⟩ := front_of_contents valid popped
  have inRing := headPos_lt valid nonEmpty
  refine ⟨?_, dropHead_valid valid nonEmpty, rest⟩
  simp only [popFront, Call.bind_apply, Call.get_apply, notEmpty, Bool.false_eq_true, if_false,
    index_apply_of_lt _ _ inRing, setIndex_apply_of_lt _ _ inRing, Call.set_apply, Call.pure_apply]
  rw [first, List.getD_eq_getElem _ _ inRing]
  rfl

theorem peekFront_spec [Inhabited T] {r : RingBuffer T} (valid : r.Valid) {x : T} {xs : List T}
    (peeked : r.contents = x :: xs) : peekFront r = .ok x r := by
  obtain ⟨nonEmpty, notEmpty, first, -⟩ := front_of_contents valid peeked
  have inRing := headPos_lt valid nonEmpty
  simp only [peekFront, Call.bind_apply, Call.get_apply, notEmpty, Bool.false_eq_true, if_false,
    index_apply_of_lt _ _ inRing]
  rw [first, List.getD_eq_getElem _ _ inRing]
  rfl

theorem clear_spec [Inhabited T] (r : RingBuffer T) :
    clear r = .ok () ⟨List.replicate r.ring.length default, 0, 0, false⟩ ∧
      (⟨List.replicate r.ring.length default, 0, 0, false⟩ : RingBuffer T).Valid ∧
      (⟨List.replicate r.ring.length default, 0, 0, false⟩ : RingBuffer T).contents = [] :=
  ⟨rfl, startsEmpty _⟩

/-! ## Along a run -/

theorem empty_eq_isEmpty [Inhabited T] {r : RingBuffer T} (valid : r.Valid) : r.empty = r.contents.isEmpty := by
  have lengthEq := length_contents r
  cases queue : r.contents with
  | nil =>
    rw [queue, List.length_nil] at lengthEq
    simpa using (len_eq_zero_iff valid).mp lengthEq.symm
  | cons x xs =>
    rw [queue, List.length_cons] at lengthEq
    have := (len_eq_zero_iff valid).not.mp (by omega)
    simpa using this

theorem step_fifo [Inhabited T] {r : RingBuffer T} (valid : r.Valid) {op : Op T} {a : Reply T} {q : List T}
    (accepted : op.fifo r.contents = some (a, q)) : ∃ r', step op r = .ok a r' ∧ r'.Valid ∧ r'.contents = q := by
  cases op with
  | pushBack t =>
    simp only [Op.fifo, Option.some.injEq, Prod.mk.injEq] at accepted
    obtain ⟨rfl, rfl⟩ := accepted
    obtain ⟨r', pushed, valid', appended⟩ := pushBack_spec valid t
    exact ⟨r', by simp [step, pushed], valid', appended⟩
  | popFront =>
    cases queue : r.contents with
    | nil => simp [Op.fifo, queue] at accepted
    | cons x xs =>
      simp only [Op.fifo, queue, Option.some.injEq, Prod.mk.injEq] at accepted
      obtain ⟨rfl, rfl⟩ := accepted
      obtain ⟨popped, valid', rest⟩ := popFront_spec valid queue
      exact ⟨dropHead r, by simp [step, popped], valid', rest⟩
  | peekFront =>
    cases queue : r.contents with
    | nil => simp [Op.fifo, queue] at accepted
    | cons x xs =>
      simp only [Op.fifo, queue, Option.some.injEq, Prod.mk.injEq] at accepted
      obtain ⟨rfl, rfl⟩ := accepted
      exact ⟨r, by simp [step, peekFront_spec valid queue], valid, queue⟩
  | clear =>
    simp only [Op.fifo, Option.some.injEq, Prod.mk.injEq] at accepted
    obtain ⟨rfl, rfl⟩ := accepted
    obtain ⟨cleared, valid', emptied⟩ := clear_spec r
    exact ⟨_, by simp [step, cleared], valid', emptied⟩
  | len =>
    simp only [Op.fifo, Option.some.injEq, Prod.mk.injEq] at accepted
    obtain ⟨rfl, rfl⟩ := accepted
    exact ⟨r, by simp [step, contents], valid, rfl⟩
  | empty =>
    simp only [Op.fifo, Option.some.injEq, Prod.mk.injEq] at accepted
    obtain ⟨rfl, rfl⟩ := accepted
    exact ⟨r, by simp [step, empty_eq_isEmpty valid], valid, rfl⟩

theorem run_fifo [Inhabited T] (ops : List (Op T)) :
    ∀ {r : RingBuffer T} {replies : List (Reply T)} {q : List T}, r.Valid →
      fifoRun ops r.contents = some (replies, q) → ∃ r', run ops r = .ok replies r' ∧ r'.Valid ∧ r'.contents = q := by
  induction ops with
  | nil =>
    intro r replies q valid accepted
    simp only [fifoRun, Option.some.injEq, Prod.mk.injEq] at accepted
    obtain ⟨rfl, rfl⟩ := accepted
    exact ⟨r, rfl, valid, rfl⟩
  | cons op ops ih =>
    intro r replies q valid accepted
    cases first : op.fifo r.contents with
    | none => simp [fifoRun, first] at accepted
    | some result =>
      obtain ⟨a, q₁⟩ := result
      cases later : fifoRun ops q₁ with
      | none => simp [fifoRun, first, later] at accepted
      | some rest =>
        obtain ⟨as, q₂⟩ := rest
        simp only [fifoRun, first, later, Option.map_some, Option.some.injEq, Prod.mk.injEq] at accepted
        obtain ⟨rfl, rfl⟩ := accepted
        -- one call, then the rest of the run from the queue it leaves
        obtain ⟨r₁, stepped, valid₁, queue₁⟩ := step_fifo valid first
        rw [← queue₁] at later
        obtain ⟨r₂, ran, valid₂, queue₂⟩ := ih valid₁ later
        exact ⟨r₂, by simp [run, stepped, ran], valid₂, queue₂⟩

/-- The ring buffer refines a FIFO queue: along every run of calls that pops and
peeks only a non-empty queue, from the zero value or after `Init(size)`, it
returns what a FIFO queue of lists returns, and holds at the end the queue that
is left. -/
theorem ringBuffer_fifo [Inhabited T] (ops : List (Op T)) (size : Nat) {replies : List (Reply T)} {q : List T}
    (accepted : fifoRun ops [] = some (replies, q)) :
    (∃ r, run ops zero = .ok replies r ∧ r.contents = q) ∧
      ∃ r, (do init size; run ops : Call (RingBuffer T) (List (Reply T))) zero = .ok replies r ∧ r.contents = q := by
  constructor
  · obtain ⟨r, ran, -, queue⟩ := run_fifo ops (startsEmpty []).1 accepted
    exact ⟨r, ran, queue⟩
  · -- `Init` on the zero value allocates a ring with both positions at its first cell
    have initialized := startsEmpty (List.replicate size (default : T))
    obtain ⟨r, ran, -, queue⟩ := run_fifo ops initialized.1 (by rw [initialized.2]; exact accepted)
    exact ⟨r, by simp [init, zero, ran], queue⟩

/-- Four pushes and four pops from a ring of two cells: the fourth push grows
the ring while the head is at its second cell and the queue wraps round. -/
theorem ringBuffer_fifo_wrappedGrow :
    fifoRun [.pushBack 1, .pushBack 2, .popFront, .pushBack 3, .pushBack 4, .len, .popFront, .popFront, .popFront,
        .empty] [] =
      some ([.done, .done, .elem 1, .done, .done, .len 3, .elem 2, .elem 3, .elem 4, .empty true], []) ∧
    (∃ r, run [.pushBack 1, .pushBack 2, .popFront, .pushBack 3, .pushBack 4, .len, .popFront, .popFront, .popFront,
        .empty] zero = .ok [.done, .done, .elem 1, .done, .done, .len 3, .elem 2, .elem 3, .elem 4, .empty true] r ∧
        r.contents = ([] : List Nat)) ∧
      ∃ r, (do init 2; run [.pushBack 1, .pushBack 2, .popFront, .pushBack 3, .pushBack 4, .len, .popFront, .popFront,
        .popFront, .empty] : Call (RingBuffer Nat) (List (Reply Nat))) zero =
          .ok [.done, .done, .elem 1, .done, .done, .len 3, .elem 2, .elem 3, .elem 4, .empty true] r ∧
        r.contents = ([] : List Nat) :=
  ⟨by decide, ringBuffer_fifo _ 2 (by decide)⟩

end RingBuffer

end QuicFec.Utils
