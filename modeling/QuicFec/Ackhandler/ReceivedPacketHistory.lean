import QuicFec.Lib.IntervalSet
import QuicFec.Wire.AckFrame

/-! # The received packet history

`internal/ackhandler/received_packet_history.go`: the packet numbers received
in one packet number space, as ranges, from which the ACK ranges are built.
The linked list of ranges is the list of its values, front to back; no call
holds an element across another call, and within one call `addToRanges` only
looks at neighbours, so the list's handles are not needed.  An `interval` is
the library's `Interval`; its `End` is `finish`, `end` being a keyword here.

What the history is for is a set of packet numbers (`ReceivedSet`): those
received at or above `deletedBelow`, of which only the highest
`MaxNumAckRanges` runs are kept.  Every call on a well-formed history does what
the same call does on its set (`receivedPacket_refines`, `deleteBelow_refines`),
so every run of calls covers what the run of the set holds (`run_refines`). -/
set_option autoImplicit false

namespace QuicFec.Ackhandler

open QuicFec.Protocol QuicFec.Wire IntervalSet

structure ReceivedPacketHistory where
  ranges : List Interval
  deletedBelow : PacketNumber
deriving DecidableEq, Repr

namespace ReceivedPacketHistory

def newReceivedPacketHistory : ReceivedPacketHistory := ⟨[], 0⟩

/-- The loop of `addToRanges` at `el`, the last range of the ones not visited
yet (kept reversed, `el` first), below the visited ranges `later`. -/
def addFrom (p : PacketNumber) : List Interval → List Interval → Bool × List Interval
  | [], later => (true, ⟨p, p⟩ :: later)
  | el :: earlier, later =>
      if p ≥ el.start ∧ p ≤ el.finish then (false, earlier.reverse ++ el :: later)
      else if el.finish = p - 1 then (true, earlier.reverse ++ { el with finish := p } :: later)
      else if el.start = p + 1 then
        match earlier with
        | prev :: earlier' =>
            if prev.finish + 1 = p then
              (true, earlier'.reverse ++ { prev with finish := el.finish } :: later)
            else (true, earlier.reverse ++ { el with start := p } :: later)
        | [] => (true, { el with start := p } :: later)
      else if p > el.finish then (true, earlier.reverse ++ el :: ⟨p, p⟩ :: later)
      else addFrom p earlier (el :: later)

/-- `addToRanges`: whether `p` is new, and the ranges with `p` added. -/
def addToRanges (p : PacketNumber) (ranges : List Interval) : Bool × List Interval :=
  if ranges.length = 0 then (true, [⟨p, p⟩])
  else addFrom p ranges.reverse []

/-- `maybeDeleteOldRanges`: the front range goes while there are more than
`MaxNumAckRanges`. -/
def maybeDeleteOldRanges : List Interval → List Interval
  | [] => []
  | el :: rest =>
      if (el :: rest).length > maxNumAckRanges then maybeDeleteOldRanges rest else el :: rest

/-- `ReceivedPacket`: whether `p` is a new packet. -/
def receivedPacket (h : ReceivedPacketHistory) (p : PacketNumber) : Bool × ReceivedPacketHistory :=
  if p < h.deletedBelow then (false, h)
  else
    let added := addToRanges p h.ranges
    (added.1, { h with ranges := maybeDeleteOldRanges added.2 })

/-- The loop of `DeleteBelow`, from the front. -/
def deleteFrom (p : PacketNumber) : List Interval → List Interval
  | [] => []
  | el :: rest =>
      if el.finish < p then deleteFrom p rest
      else if p > el.start ∧ p ≤ el.finish then { el with start := p } :: rest
      else el :: rest

def deleteBelow (h : ReceivedPacketHistory) (p : PacketNumber) : ReceivedPacketHistory :=
  if p < h.deletedBelow then h
  else { ranges := deleteFrom p h.ranges, deletedBelow := p }

/-- `AppendAckRanges`: the ranges from the back. -/
def appendAckRanges (h : ReceivedPacketHistory) (ackRanges : List AckRange) : List AckRange :=
  if h.ranges.length > 0 then
    ackRanges ++ h.ranges.reverse.map fun el => ⟨el.start, el.finish⟩
  else ackRanges

/-- The loop of `IsPotentiallyDuplicate`, from the back. -/
def duplicateFrom (p : PacketNumber) : List Interval → Bool
  | [] => false
  | el :: earlier =>
      if p > el.finish then false
      else if p ≤ el.finish ∧ p ≥ el.start then true
      else duplicateFrom p earlier

def isPotentiallyDuplicate (h : ReceivedPacketHistory) (p : PacketNumber) : Bool :=
  if p < h.deletedBelow then true else duplicateFrom p h.ranges.reverse

/-! ## Adding a packet number -/

/-- What adding `p` to the separated ranges `l` has to give: separated ranges
covering `p` besides the points of `l`, at most one range more, and whether
`p` was new. -/
structure Inserts (p : PacketNumber) (l : List Interval) (result : Bool × List Interval) : Prop where
  separated : Separated result.2
  points_eq : points result.2 = insert p (points l)
  isNew : result.1 = decide (p ∉ points l)
  length_le : result.2.length ≤ l.length + 1

theorem inserts_of_mem {p : Int} {l : List Interval} (sep : Separated l)
    (covered : p ∈ points l) : Inserts p l (false, l) :=
  ⟨sep, (Finset.insert_eq_of_mem covered).symm, by simp [covered], by simp⟩

theorem inserts_of_splice {p : Int} (xs mid : List Interval) {ys : List Interval}
    (r : Interval) (sep : Separated (xs ++ (mid ++ ys))) (nonempty : r.start ≤ r.finish)
    (below : ∀ a ∈ xs, a.finish + 1 < r.start) (above : ∀ b ∈ ys, r.finish + 1 < b.start)
    (cover : ∀ q, r.start ≤ q ∧ q ≤ r.finish ↔ q = p ∨ q ∈ points mid)
    (fresh : p ∉ points (xs ++ (mid ++ ys))) :
    Inserts p (xs ++ (mid ++ ys)) (true, xs ++ r :: ys) := by
  rw [← List.append_assoc] at sep fresh ⊢
  refine ⟨sep.splice nonempty below above, points_splice xs mid ys cover,
    (decide_eq_true fresh).symm, ?_⟩
  simp only [List.length_append, List.length_cons]
  omega

theorem addFrom_inserts (p : Int) :
    ∀ (earlier later : List Interval), Separated (earlier.reverse ++ later) →
      (∀ b ∈ later, p + 1 < b.start) →
      Inserts p (earlier.reverse ++ later) (addFrom p earlier later)
  | [], later, sep, above => by
      have fresh : p ∉ points later := not_mem_points fun b member => by
        have := above b member
        omega
      exact inserts_of_splice [] [] ⟨p, p⟩ sep (le_refl p) (by simp) above
        (fun q => by simp; omega) fresh
  | el :: earlier, later, sep, above => by
      rw [List.reverse_cons, List.append_assoc, List.singleton_append] at sep ⊢
      obtain ⟨left, middle, across⟩ := separated_append_iff.mp sep
      obtain ⟨elNonempty, elBelow, -⟩ := separated_cons_iff.mp middle
      have leftBelow : ∀ a ∈ earlier.reverse, a.finish + 1 < el.start := fun a member =>
        across a member el List.mem_cons_self
      have laterAbove : ∀ b ∈ later, p < b.start := fun b member => by
        have := above b member
        omega
      unfold addFrom
      by_cases covered : p ≥ el.start ∧ p ≤ el.finish
      · -- `p` is already in `el`
        rw [if_pos covered]
        exact inserts_of_mem sep (mem_points.mpr ⟨el, by simp, covered⟩)
      rw [if_neg covered]
      have outside : ¬ (el.start ≤ p ∧ p ≤ el.finish) := covered
      by_cases extendsEnd : el.finish = p - 1
      · -- extend a range at the end
        rw [if_pos extendsEnd]
        exact inserts_of_splice earlier.reverse [el] { el with finish := p } sep (by simp; omega)
          leftBelow above (fun q => by simp; omega)
          (not_mem_points_around sep (by omega) outside laterAbove)
      rw [if_neg extendsEnd]
      by_cases extendsStart : el.start = p + 1
      · -- extend a range at the beginning, merging it with the one before when they touch
        rw [if_pos extendsStart]
        have fresh := not_mem_points_around sep (by omega) outside laterAbove
        cases earlier with
        | nil =>
            exact inserts_of_splice [] [el] { el with start := p } sep (by simp; omega) (by simp)
              elBelow (fun q => by simp; omega) fresh
        | cons prev earlier' =>
            dsimp only
            have prevGap := leftBelow prev (by simp)
            rw [List.reverse_cons] at left leftBelow
            obtain ⟨-, -, prevAcross⟩ := separated_append_iff.mp left
            have prevNonempty := left.nonempty prev (by simp)
            by_cases merges : prev.finish + 1 = p
            · rw [if_pos merges]
              have regroup : (prev :: earlier').reverse ++ el :: later =
                  earlier'.reverse ++ ([prev, el] ++ later) := by simp
              rw [regroup] at sep fresh ⊢
              exact inserts_of_splice earlier'.reverse [prev, el] { prev with finish := el.finish }
                sep (by simp; omega) (fun a member => prevAcross a member prev (by simp)) elBelow
                (fun q => by simp; omega) fresh
            · rw [if_neg merges]
              have wellBelow : ∀ a ∈ (prev :: earlier').reverse, a.finish + 1 < p := by
                intro a member
                rw [List.reverse_cons] at member
                rcases List.mem_append.mp member with inLeft | isPrev
                · have := prevAcross a inLeft prev (by simp)
                  omega
                · rw [List.mem_singleton.mp isPrev]
                  omega
              exact inserts_of_splice (prev :: earlier').reverse [el] { el with start := p } sep
                (by simp; omega) wellBelow elBelow (fun q => by simp; omega) fresh
      rw [if_neg extendsStart]
      by_cases after : p > el.finish
      · -- create a new range at the end
        rw [if_pos after]
        have fresh := not_mem_points_around sep (by omega) outside laterAbove
        have wellBelow : ∀ a ∈ earlier.reverse ++ [el], a.finish + 1 < p := by
          intro a member
          rcases List.mem_append.mp member with inLeft | isEl
          · have := leftBelow a inLeft
            omega
          · rw [List.mem_singleton.mp isEl]
            omega
        have regroup : earlier.reverse ++ el :: later = (earlier.reverse ++ [el]) ++ ([] ++ later) := by
          simp
        rw [regroup] at sep fresh ⊢
        have inserted := inserts_of_splice (earlier.reverse ++ [el]) [] ⟨p, p⟩ sep (le_refl p)
          wellBelow above (fun q => by simp; omega) fresh
        simpa using inserted
      · -- `p` lies at least two below `el`: go on to the range before it
        rw [if_neg after]
        exact addFrom_inserts p earlier (el :: later) sep fun b member => by
          rcases List.mem_cons.mp member with rfl | inLater
          · omega
          · exact above b inLater

theorem addToRanges_inserts (p : Int) {ranges : List Interval} (sep : Separated ranges) :
    Inserts p ranges (addToRanges p ranges) := by
  unfold addToRanges
  split_ifs with empty
  · rw [List.length_eq_zero_iff.mp empty]
    exact addFrom_inserts p [] [] separated_nil (by simp)
  · simpa using addFrom_inserts p ranges.reverse [] (by simpa using sep) (by simp)

theorem maybeDeleteOldRanges_eq_drop :
    ∀ ranges : List Interval,
      maybeDeleteOldRanges ranges = ranges.drop (ranges.length - maxNumAckRanges)
  | [] => rfl
  | el :: rest => by
      unfold maybeDeleteOldRanges
      split_ifs with tooMany
      · rw [maybeDeleteOldRanges_eq_drop rest]
        simp only [List.length_cons] at tooMany ⊢
        rw [show rest.length + 1 - maxNumAckRanges = (rest.length - maxNumAckRanges) + 1 by omega,
          List.drop_succ_cons]
      · simp only [List.length_cons] at tooMany ⊢
        rw [show rest.length + 1 - maxNumAckRanges = 0 by omega, List.drop_zero]

/-! ## Deleting below a packet number -/

theorem deleteFrom_spec (p : Int) :
    ∀ ranges : List Interval, Separated ranges →
      Separated (deleteFrom p ranges) ∧ points (deleteFrom p ranges) = (points ranges).filter (p ≤ ·) ∧
        (deleteFrom p ranges).length ≤ ranges.length
  | [], _ => by simp [deleteFrom, separated_nil]
  | el :: rest, sep => by
      obtain ⟨elNonempty, elBelow, restSep⟩ := separated_cons_iff.mp sep
      have restAbove : ∀ q ∈ points rest, el.finish + 1 < q := fun q inside =>
        lt_of_mem_points (fun b member => elBelow b member) inside
      unfold deleteFrom
      by_cases gone : el.finish < p
      · -- delete a whole range
        rw [if_pos gone]
        obtain ⟨separated, pointsEq, shorter⟩ := deleteFrom_spec p rest restSep
        refine ⟨separated, ?_, by simp; omega⟩
        rw [pointsEq]
        ext q
        simp only [Finset.mem_filter, points_cons, Finset.mem_union, Finset.mem_Icc]
        constructor
        · rintro ⟨inside, atLeast⟩
          exact ⟨Or.inr inside, atLeast⟩
        · rintro ⟨inEl | inside, atLeast⟩
          · omega
          · exact ⟨inside, atLeast⟩
      rw [if_neg gone]
      by_cases cut : p > el.start ∧ p ≤ el.finish
      · -- the range that holds `p` now starts there
        rw [if_pos cut]
        refine ⟨separated_cons_iff.mpr ⟨cut.2, elBelow, restSep⟩, ?_, by simp⟩
        ext q
        simp only [Finset.mem_filter, points_cons, Finset.mem_union, Finset.mem_Icc]
        constructor
        · rintro (inEl | inside)
          · exact ⟨Or.inl ⟨by omega, inEl.2⟩, inEl.1⟩
          · have := restAbove q inside
            exact ⟨Or.inr inside, by omega⟩
        · rintro ⟨inEl | inside, atLeast⟩
          · exact Or.inl ⟨atLeast, inEl.2⟩
          · exact Or.inr inside
      · -- no range reaches below `p`
        rw [if_neg cut]
        refine ⟨sep, ?_, le_refl _⟩
        symm
        rw [Finset.filter_eq_self]
        intro q inside
        simp only [points_cons, Finset.mem_union, Finset.mem_Icc] at inside
        rcases inside with inEl | inRest
        · omega
        · have := restAbove q inRest
          omega

/-! ## Looking a packet number up -/

theorem duplicateFrom_reverse (p : Int) :
    ∀ earlier : List Interval, Separated earlier.reverse →
      duplicateFrom p earlier = decide (p ∈ points earlier.reverse)
  | [], _ => by simp [duplicateFrom]
  | el :: earlier, sep => by
      rw [List.reverse_cons] at sep ⊢
      obtain ⟨left, single, across⟩ := separated_append_iff.mp sep
      have elNonempty := single.nonempty el List.mem_cons_self
      have leftBelow : ∀ a ∈ earlier.reverse, a.finish + 1 < el.start := fun a member =>
        across a member el List.mem_cons_self
      unfold duplicateFrom
      by_cases above : p > el.finish
      · -- above the highest range left: not covered
        rw [if_pos above]
        have outside : p ∉ points (earlier.reverse ++ [el]) :=
          not_mem_points_around sep (by omega) (by omega) (by simp)
        exact (decide_eq_false outside).symm
      rw [if_neg above]
      by_cases inEl : p ≤ el.finish ∧ p ≥ el.start
      · rw [if_pos inEl]
        simp [Finset.mem_Icc, inEl.1, inEl.2]
      · -- below `el`: covered exactly when a lower range covers it
        rw [if_neg inEl, duplicateFrom_reverse p earlier left, decide_eq_decide, points_append,
          Finset.mem_union, or_iff_left]
        simp only [points_cons, points_nil, Finset.union_empty, Finset.mem_Icc]
        omega

/-! ## The invariant -/

/-- The history between two calls: separated ranges, none below `deletedBelow`,
at most `MaxNumAckRanges` of them. -/
structure Wellformed (h : ReceivedPacketHistory) : Prop where
  separated : Separated h.ranges
  aboveDeleted : ∀ q ∈ points h.ranges, h.deletedBelow ≤ q
  bounded : h.ranges.length ≤ maxNumAckRanges

theorem wellformed_newReceivedPacketHistory : Wellformed newReceivedPacketHistory :=
  ⟨separated_nil, by simp [newReceivedPacketHistory], by simp [newReceivedPacketHistory]⟩

theorem receivedPacket_wellformed {h : ReceivedPacketHistory} (wf : Wellformed h) (p : PacketNumber) :
    Wellformed (h.receivedPacket p).2 := by
  unfold receivedPacket
  split_ifs with ignored
  · exact wf
  obtain ⟨separated, pointsEq, -, -⟩ := addToRanges_inserts p wf.separated
  simp only [maybeDeleteOldRanges_eq_drop]
  refine ⟨separated.sublist (List.drop_sublist _ _), ?_, by simp; omega⟩
  intro q inside
  have : q ∈ points (addToRanges p h.ranges).2 :=
    mem_points.mpr (let ⟨r, member, bounds⟩ := mem_points.mp inside
      ⟨r, (List.drop_sublist _ _).subset member, bounds⟩)
  rw [pointsEq, Finset.mem_insert] at this
  rcases this with rfl | old
  · exact Int.not_lt.mp ignored
  · exact wf.aboveDeleted q old

theorem deleteBelow_wellformed {h : ReceivedPacketHistory} (wf : Wellformed h) (p : PacketNumber) :
    Wellformed (h.deleteBelow p) := by
  unfold deleteBelow
  split_ifs with ignored
  · exact wf
  obtain ⟨separated, pointsEq, shorter⟩ := deleteFrom_spec p h.ranges wf.separated
  refine ⟨separated, ?_, le_trans shorter wf.bounded⟩
  intro q inside
  rw [pointsEq, Finset.mem_filter] at inside
  exact inside.2

theorem Wellformed.start_ge {h : ReceivedPacketHistory} (wf : Wellformed h) :
    ∀ r ∈ h.ranges, h.deletedBelow ≤ r.start := fun r member =>
  wf.aboveDeleted r.start (mem_points.mpr ⟨r, member, le_refl _, wf.separated.nonempty r member⟩)

end ReceivedPacketHistory

/-! ## The set the history stands for -/

/-- The packet numbers a history acknowledges, and the bound below which it
ignores packets. -/
structure ReceivedSet where
  received : Finset PacketNumber
  deletedBelow : PacketNumber
deriving DecidableEq

namespace ReceivedSet

/-- A packet at or above `deletedBelow` joins the set; only the highest
`MaxNumAckRanges` runs of the set are kept. -/
def receivedPacket (s : ReceivedSet) (p : PacketNumber) : Bool × ReceivedSet :=
  if p < s.deletedBelow then (false, s)
  else (decide (p ∉ s.received),
    { s with received := keepTopRuns maxNumAckRanges (insert p s.received) })

def deleteBelow (s : ReceivedSet) (p : PacketNumber) : ReceivedSet :=
  if p < s.deletedBelow then s else ⟨s.received.filter (p ≤ ·), p⟩

def isPotentiallyDuplicate (s : ReceivedSet) (p : PacketNumber) : Bool :=
  decide (p < s.deletedBelow ∨ p ∈ s.received)

end ReceivedSet

namespace ReceivedPacketHistory

/-- The set a history stands for. -/
noncomputable def toReceivedSet (h : ReceivedPacketHistory) : ReceivedSet := ⟨points h.ranges, h.deletedBelow⟩

theorem receivedPacket_refines {h : ReceivedPacketHistory} (wf : Wellformed h) (p : PacketNumber) :
    (h.receivedPacket p).1 = (h.toReceivedSet.receivedPacket p).1 ∧
      (h.receivedPacket p).2.toReceivedSet = (h.toReceivedSet.receivedPacket p).2 := by
  unfold receivedPacket ReceivedSet.receivedPacket toReceivedSet
  split_ifs with ignored
  · exact ⟨rfl, rfl⟩
  obtain ⟨separated, pointsEq, isNew, -⟩ := addToRanges_inserts p wf.separated
  refine ⟨isNew, ?_⟩
  simp only [maybeDeleteOldRanges_eq_drop, points_drop_eq_keepTopRuns separated, pointsEq]

theorem receivedPacket_isNew {h : ReceivedPacketHistory} (wf : Wellformed h) (p : PacketNumber) :
    (h.receivedPacket p).1 = true ↔ h.deletedBelow ≤ p ∧ p ∉ points h.ranges := by
  rw [(receivedPacket_refines wf p).1]
  unfold ReceivedSet.receivedPacket toReceivedSet
  by_cases ignored : p < h.deletedBelow
  · simp [ignored]
  · simp [ignored, Int.not_lt.mp ignored]

theorem deleteBelow_refines {h : ReceivedPacketHistory} (wf : Wellformed h) (p : PacketNumber) :
    (h.deleteBelow p).toReceivedSet = h.toReceivedSet.deleteBelow p := by
  unfold deleteBelow ReceivedSet.deleteBelow toReceivedSet
  split_ifs with ignored
  · rfl
  · simp [(deleteFrom_spec p h.ranges wf.separated).2.1]

theorem isPotentiallyDuplicate_refines {h : ReceivedPacketHistory} (wf : Wellformed h)
    (p : PacketNumber) : h.isPotentiallyDuplicate p = h.toReceivedSet.isPotentiallyDuplicate p := by
  unfold isPotentiallyDuplicate ReceivedSet.isPotentiallyDuplicate toReceivedSet
  rw [duplicateFrom_reverse p h.ranges.reverse (by simpa using wf.separated), List.reverse_reverse]
  by_cases ignored : p < h.deletedBelow <;> simp [ignored]

theorem isPotentiallyDuplicate_iff {h : ReceivedPacketHistory} (wf : Wellformed h) (p : PacketNumber) :
    h.isPotentiallyDuplicate p = true ↔ p < h.deletedBelow ∨ p ∈ points h.ranges := by
  rw [isPotentiallyDuplicate_refines wf]
  exact decide_eq_true_iff

/-! ## ACK ranges -/

theorem appendAckRanges_nil_eq_nil_iff (h : ReceivedPacketHistory) :
    h.appendAckRanges [] = [] ↔ h.ranges = [] := by
  unfold appendAckRanges
  split_ifs with nonempty
  · simp [List.ne_nil_of_length_pos nonempty]
  · simpa using nonempty

theorem validateAckRanges_appendAckRanges {h : ReceivedPacketHistory} (wf : Wellformed h)
    (nonempty : h.appendAckRanges [] ≠ []) (delayTime ect0 ect1 ecnce : Nat) :
    AckFrame.validateAckRanges ⟨h.appendAckRanges [], nonempty, delayTime, ect0, ect1, ecnce⟩ = true := by
  have filled : h.ranges.length > 0 :=
    List.length_pos_iff.mpr fun empty => nonempty ((appendAckRanges_nil_eq_nil_iff h).mpr empty)
  rw [AckFrame.validateAckRanges_iff]
  simp only [appendAckRanges, filled, if_true, List.nil_append]
  constructor
  · intro r member
    obtain ⟨el, inRanges, rfl⟩ := List.mem_map.mp member
    exact wf.separated.nonempty el (List.mem_reverse.mp inRanges)
  · -- the ranges descend because, front to back, each one lies above the one before
    rw [List.isChain_map, List.isChain_reverse]
    refine (wf.separated.apart.imp_of_mem fun {a b} inA _ gap => ⟨?_, gap⟩).isChain
    show a.start < b.start
    have := wf.separated.nonempty a inA
    omega

/-! ## Runs of calls -/

/-- A call that changes the history. -/
inductive Op where
  | receivedPacket (p : PacketNumber)
  | deleteBelow (p : PacketNumber)
deriving DecidableEq, Repr

/-- The history after one call. -/
def step (h : ReceivedPacketHistory) : Op → ReceivedPacketHistory
  | .receivedPacket p => (h.receivedPacket p).2
  | .deleteBelow p => h.deleteBelow p

/-- The history after a run of calls on a new one. -/
def run (ops : List Op) : ReceivedPacketHistory := ops.foldl step newReceivedPacketHistory

end ReceivedPacketHistory

namespace ReceivedSet

open ReceivedPacketHistory (Op)

/-- The set after one call. -/
def step (s : ReceivedSet) : Op → ReceivedSet
  | .receivedPacket p => (s.receivedPacket p).2
  | .deleteBelow p => s.deleteBelow p

/-- The set after a run of calls on the empty one. -/
def run (ops : List Op) : ReceivedSet := ops.foldl step ⟨∅, 0⟩

end ReceivedSet

namespace ReceivedPacketHistory

theorem step_wellformed {h : ReceivedPacketHistory} (wf : Wellformed h) :
    ∀ op, Wellformed (h.step op)
  | .receivedPacket p => receivedPacket_wellformed wf p
  | .deleteBelow p => deleteBelow_wellformed wf p

theorem step_refines {h : ReceivedPacketHistory} (wf : Wellformed h) :
    ∀ op, (h.step op).toReceivedSet = h.toReceivedSet.step op
  | .receivedPacket p => (receivedPacket_refines wf p).2
  | .deleteBelow p => deleteBelow_refines wf p

theorem foldl_step (ops : List Op) :
    ∀ h : ReceivedPacketHistory, Wellformed h →
      Wellformed (ops.foldl step h) ∧
        (ops.foldl step h).toReceivedSet = ops.foldl ReceivedSet.step h.toReceivedSet := by
  induction ops with
  | nil => exact fun h wf => ⟨wf, rfl⟩
  | cons op ops ih =>
      intro h wf
      rw [List.foldl_cons, List.foldl_cons, ← step_refines wf op]
      exact ih (h.step op) (step_wellformed wf op)

theorem run_wellformed (ops : List Op) : Wellformed (run ops) :=
  (foldl_step ops _ wellformed_newReceivedPacketHistory).1

theorem run_refines (ops : List Op) : (run ops).toReceivedSet = ReceivedSet.run ops :=
  (foldl_step ops _ wellformed_newReceivedPacketHistory).2

/-- The history after any run of calls: its ranges are sorted, non-empty,
apart, at or above `deletedBelow` and at most `MaxNumAckRanges`; it reports
new and potentially duplicate packets by what it covers, covers what the
set's run holds, and hands out valid ACK ranges whenever it holds a range. -/
theorem receivedPacketHistory_run_invariant (ops : List Op) :
    ((run ops).ranges.map (·.start)).Pairwise (· < ·) ∧
      (∀ r ∈ (run ops).ranges, r.start ≤ r.finish) ∧
      (run ops).ranges.IsChain (fun prev next => prev.finish + 1 < next.start) ∧
      (∀ r ∈ (run ops).ranges, (run ops).deletedBelow ≤ r.start) ∧
      (run ops).ranges.length ≤ maxNumAckRanges ∧
      (∀ p, ((run ops).receivedPacket p).1 = true ↔
        (run ops).deletedBelow ≤ p ∧ p ∉ points (run ops).ranges) ∧
      points (run ops).ranges = (ReceivedSet.run ops).received ∧
      (∀ p, (run ops).isPotentiallyDuplicate p = true ↔
        p < (run ops).deletedBelow ∨ p ∈ points (run ops).ranges) ∧
      ((run ops).appendAckRanges [] ≠ [] ↔ (run ops).ranges ≠ []) ∧
      ∀ (nonempty : (run ops).appendAckRanges [] ≠ []) (delayTime ect0 ect1 ecnce : Nat),
        AckFrame.validateAckRanges
          ⟨(run ops).appendAckRanges [], nonempty, delayTime, ect0, ect1, ecnce⟩ = true := by
  have wf := run_wellformed ops
  refine ⟨wf.separated.start_lt, wf.separated.nonempty, wf.separated.apart.isChain, wf.start_ge,
    wf.bounded, receivedPacket_isNew wf, ?_, isPotentiallyDuplicate_iff wf,
    not_congr (appendAckRanges_nil_eq_nil_iff _), validateAckRanges_appendAckRanges wf⟩
  rw [← run_refines ops]
  rfl

/-- Three packets received out of order make one range, handed out as one valid ACK range. -/
theorem receivedPacketHistory_run_merges :
    AckFrame.validateAckRanges
      ⟨(run [.receivedPacket 1, .receivedPacket 3, .receivedPacket 2]).appendAckRanges [],
        by decide, 0, 0, 0, 0⟩ = true :=
  (receivedPacketHistory_run_invariant [.receivedPacket 1, .receivedPacket 3, .receivedPacket 2]).2.2.2.2.2.2.2.2.2
    (by decide) 0 0 0 0

/-- Once `DeleteBelow` has passed every received packet, the history hands out
no ACK range at all, which `validateAckRanges` rejects. -/
theorem appendAckRanges_empty_after_deleteBelow :
    (run [.receivedPacket 5, .deleteBelow 6]).appendAckRanges [] = [] := by
  decide

end ReceivedPacketHistory

end QuicFec.Ackhandler
