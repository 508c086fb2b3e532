import QuicFec.Stream.FrameSorter

/-! # What the frame sorter holds

Facts about every state the frame sorter reaches.  `push` only deletes queued
frames until its last step, which queues one piece of the pushed frame: the
pieces it cuts off keep the data inside the range it was given.  So the sorter
never holds a byte, nor reads past an offset, that no pushed frame reached
(`Below`): the receive stream's flow control rests on that. -/
set_option autoImplicit false

namespace QuicFec

open Go QuicFec.Protocol

namespace FrameSorter

variable {α γ : Type}

/-! ## Queues that only lose frames -/

/-- `s'` holds a subset of the frames of `s`, at the same read position. -/
structure Shrinks (s s' : FrameSorter α γ) : Prop where
  readPos_eq : s'.readPos = s.readPos
  lookup : ∀ k e, s'.queue.lookup k = some e → s.queue.lookup k = some e

theorem Shrinks.refl (s : FrameSorter α γ) : Shrinks s s := ⟨rfl, fun _ _ found => found⟩

theorem Shrinks.trans {s t u : FrameSorter α γ} (first : Shrinks s t) (second : Shrinks t u) :
    Shrinks s u :=
  ⟨second.readPos_eq.trans first.readPos_eq, fun k e found => first.lookup k e (second.lookup k e found)⟩

theorem shrinks_erase (s : FrameSorter α γ) (pos : Nat) (called : List γ) :
    Shrinks s { s with queue := s.queue.erase pos, called := called } := by
  refine ⟨rfl, fun k e found => ?_⟩
  by_cases atPos : k = pos
  · subst atPos
    simp [AList.lookup_erase] at found
  · simpa [AList.lookup_erase_ne atPos] using found

theorem deleteConsecutive_shrinks (pos : Nat) (s : FrameSorter α γ) :
    Shrinks s (deleteConsecutive pos s) := by
  induction pos, s using deleteConsecutive.induct with
  | case1 pos s found => rw [deleteConsecutive_of_none pos s found]; exact Shrinks.refl s
  | case2 pos s oldEntry found rest =>
      rw [deleteConsecutive_of_some pos s found]
      exact (shrinks_erase s pos _).trans rest

theorem deleteGaps_shrinks (endGapStart : Nat) (gap : Option Nat) (gaps : LinkedList ByteInterval)
    (s : FrameSorter α γ) {gaps' : LinkedList ByteInterval} {s' : FrameSorter α γ}
    (run : deleteGaps endGapStart gap gaps s = .ok gaps' s') : Shrinks s s' := by
  induction gap, gaps, s using deleteGaps.induct endGapStart with
  | case1 gaps s => simp [deleteGaps] at run
  | case2 gaps s e missing =>
      rw [deleteGaps] at run
      split at run <;> simp_all
  | case3 gaps s e gap present before rest =>
      rw [deleteGaps_of_lt s endGapStart gaps e present before] at run
      exact (deleteConsecutive_shrinks _ s).trans (rest run)
  | case4 gaps s e gap present reached =>
      rw [deleteGaps_of_not_lt s endGapStart gaps e present reached, Result.ok.injEq] at run
      rw [← run.2]
      exact Shrinks.refl s

theorem deleteBetween_shrinks {g : PushGaps} {gaps gaps' : LinkedList ByteInterval}
    {s s' : FrameSorter α γ} (run : deleteBetween g gaps s = .ok gaps' s') : Shrinks s s' := by
  unfold deleteBetween at run
  by_cases equal : g.startGapEqualsEndGap = true
  · simp only [equal, if_true, Result.ok.injEq] at run
    rw [← run.2]
    exact Shrinks.refl s
  · rw [if_neg equal] at run
    exact (deleteConsecutive_shrinks _ s).trans (deleteGaps_shrinks _ _ _ _ run)

/-! ## The pushed frame only loses bytes -/

/-- The offsets the frame's data covers. -/
def PushFrame.Holds (f : PushFrame α) (x : Nat) : Prop := f.start ≤ x ∧ x < f.start + f.data.length

/-- `f'` covers no offset `f` does not. -/
def PushFrame.Within (f' f : PushFrame α) : Prop := ∀ x, f'.Holds x → f.Holds x

theorem PushFrame.Within.refl (f : PushFrame α) : f.Within f := fun _ holds => holds

theorem PushFrame.Within.trans {f g h : PushFrame α} (first : f.Within g) (second : g.Within h) :
    f.Within h := fun x holds => second x (first x holds)

theorem within_take (f : PushFrame α) (n newEnd : Nat) (wasCut : Bool) :
    PushFrame.Within { f with data := f.data.take n, «end» := newEnd, wasCut := wasCut } f := by
  intro x ⟨above, below⟩
  simp only [List.length_take] at below
  exact ⟨above, by omega⟩

theorem within_drop (f : PushFrame α) {newStart : Nat} (later : f.start ≤ newStart) (wasCut : Bool) :
    PushFrame.Within
      { f with data := f.data.drop (newStart - f.start), start := newStart, wasCut := wasCut } f := by
  intro x ⟨above, below⟩
  simp only [List.length_drop] at above below
  exact ⟨by omega, by omega⟩

theorem replaceFrames_ok {f f' : PushFrame α} {pos : Nat} {replaced replaced' : Bool}
    {s s' : FrameSorter α γ} (run : replaceFrames f pos replaced s = .ok (f', replaced') s') :
    Shrinks s s' ∧ f'.Within f ∧ f'.start = f.start := by
  induction pos, replaced, s using replaceFrames.induct f with
  | case1 pos replaced s found =>
      rw [replaceFrames_of_none f pos replaced s found, Result.ok.injEq, Prod.mk.injEq] at run
      obtain ⟨⟨rfl, -⟩, rfl⟩ := run
      exact ⟨Shrinks.refl s, PushFrame.Within.refl f, rfl⟩
  | case2 pos replaced s oldEntry found _ longer rest =>
      rw [replaceFrames_of_some f pos replaced s found, if_pos longer] at run
      obtain ⟨shrinks, within, start⟩ := rest run
      exact ⟨(shrinks_erase s pos _).trans shrinks, within, start⟩
  | case3 pos replaced s oldEntry found _ notLonger first =>
      rw [replaceFrames_of_some f pos replaced s found, if_neg notLonger, if_pos first] at run
      cases run
  | case4 pos replaced s oldEntry found _ notLonger later =>
      rw [replaceFrames_of_some f pos replaced s found, if_neg notLonger, if_neg later,
        Result.ok.injEq, Prod.mk.injEq] at run
      obtain ⟨⟨rfl, -⟩, rfl⟩ := run
      exact ⟨Shrinks.refl s, within_take f _ _ _, rfl⟩

theorem cutStartAt_within (startGap : ByteInterval) (g : PushGaps) (replaced : Bool)
    (f : PushFrame α) (gaps : LinkedList ByteInterval)
    (below : g.startsInGap = false → f.start ≤ startGap.start) :
    (cutStartAt startGap g replaced f gaps).1.Within f := by
  unfold cutStartAt
  by_cases outside : (!g.startsInGap && !replaced) = true
  · have cut := within_drop f (below (by simp at outside; exact outside.1)) true
    simp only [outside, if_true]
    split_ifs <;> exact cut
  · simp only [outside, Bool.false_eq_true, if_false]
    split_ifs <;> exact PushFrame.Within.refl f

theorem cutEnd_within (g : PushGaps) (adjusted : Bool) (f : PushFrame α)
    (gaps : LinkedList ByteInterval) : (cutEnd g adjusted f gaps).1.Within f := by
  unfold cutEnd
  by_cases cutsEnd : (!g.endsInGap && f.start ≠ g.endGapEnd && f.«end» > g.endGapEnd) = true
  · have cut := within_take f (g.endGapEnd - f.start) g.endGapEnd true
    simp only [cutsEnd, if_true]
    exact cut
  · simp only [cutsEnd, Bool.false_eq_true, if_false]
    split_ifs <;> exact PushFrame.Within.refl f

/-! ## Nothing is held past the pushed frames -/

/-- Every byte the sorter holds, and its read position, lie below `bound`. -/
structure Below (bound : Nat) (s : FrameSorter α γ) : Prop where
  readPos_le : s.readPos ≤ bound
  held_lt : ∀ k e, s.queue.lookup k = some e → ∀ x, k ≤ x → x < k + e.data.length → x < bound

theorem Below.shrink {bound : Nat} {s s' : FrameSorter α γ} (below : Below bound s)
    (shrinks : Shrinks s s') : Below bound s' :=
  ⟨shrinks.readPos_eq ▸ below.readPos_le,
    fun k e found => below.held_lt k e (shrinks.lookup k e found)⟩

theorem below_newFrameSorter (bound : Nat) : Below bound (newFrameSorter : FrameSorter α γ) :=
  ⟨Nat.zero_le _, fun k e found => by simp [newFrameSorter, AList.lookup_empty] at found⟩

theorem push_stored_within {data : List α} {offset : Nat} {doneCb : Option γ}
    {s s' : FrameSorter α γ} (run : push data offset doneCb s = .ok () s') :
    ∃ (t : FrameSorter α γ) (f : PushFrame α), Shrinks s t ∧
      f.Within ⟨data, offset, offset + data.length, false⟩ ∧
      s'.readPos = t.readPos ∧
      s'.queue = t.queue.insert f.start ⟨f.data, if f.copied then none else doneCb⟩ := by
  obtain ⟨front, g, f₁, replaced, t, startGap, f₂, gaps₁, adjusted, gaps₂, t₂, f₃, gaps₃, -, -, -,
    located, replacing, present, cutStartEq, deleted, cutEndEq, stored⟩ := push_ok_steps run
  obtain ⟨-, foundStart, -, -, -, startGap', -, startGapAt, -, -, -, -, -⟩ := locateGaps_ok located
  obtain ⟨replacedShrinks, replacedWithin, replacedStart⟩ := replaceFrames_ok replacing
  obtain ⟨-, storedEq⟩ := store_ok stored
  have sameGap : startGap = startGap' := by
    rw [LinkedList.value?_ofList, startGapAt] at present
    exact (Option.some.inj present).symm
  have startBelow : g.startsInGap = false → f₁.start ≤ startGap.start := by
    intro outside
    obtain ⟨n, gap, atN, gapAt, -, inside⟩ := findStartGapFrom_spec _ _ _ _ _ foundStart
    simp only [Nat.zero_add] at atN
    subst atN
    rw [startGapAt, Option.some.injEq] at gapAt
    rcases inside with ⟨inGap, -⟩ | ⟨-, before⟩
    · rw [outside] at inGap
      cases inGap
    · rw [replacedStart, sameGap, gapAt]
      exact Nat.le_of_lt before
  have startWithin := cutStartAt_within startGap g replaced f₁ (LinkedList.ofList s.gaps) startBelow
  rw [cutStartEq] at startWithin
  have endWithin := cutEnd_within g adjusted f₂ gaps₂
  rw [cutEndEq] at endWithin
  refine ⟨t₂, f₃, replacedShrinks.trans (deleteBetween_shrinks deleted),
    endWithin.trans (startWithin.trans replacedWithin), by rw [storedEq], by rw [storedEq]⟩

/-- Where a push leaves the sorter, whatever it returns: some frames dropped at
the same read position, and perhaps a piece of the pushed frame stored. -/
def PushLeaves (data : List α) (offset : Nat) (doneCb : Option γ) (s s' : FrameSorter α γ) : Prop :=
  ∃ t : FrameSorter α γ, Shrinks s t ∧ s'.readPos = t.readPos ∧
    (s'.queue = t.queue ∨
      ∃ f : PushFrame α, f.Within ⟨data, offset, offset + data.length, false⟩ ∧
        s'.queue = t.queue.insert f.start ⟨f.data, if f.copied then none else doneCb⟩)

theorem PushLeaves.readPos_eq {data : List α} {offset : Nat} {doneCb : Option γ} {s s' : FrameSorter α γ}
    (leaves : PushLeaves data offset doneCb s s') : s'.readPos = s.readPos := by
  obtain ⟨t, shrinks, readPosEq, -⟩ := leaves
  rw [readPosEq, shrinks.readPos_eq]

theorem PushLeaves.below {bound : Nat} {data : List α} {offset : Nat} {doneCb : Option γ}
    {s s' : FrameSorter α γ} (leaves : PushLeaves data offset doneCb s s') (below : Below bound s)
    (fits : offset + data.length ≤ bound) : Below bound s' := by
  obtain ⟨t, shrinks, readPosEq, sameQueue | ⟨f, within, queueEq⟩⟩ := leaves
  · have belowT := below.shrink shrinks
    exact ⟨readPosEq ▸ belowT.readPos_le, fun k e found => belowT.held_lt k e (sameQueue ▸ found)⟩
  have belowT := below.shrink shrinks
  refine ⟨readPosEq ▸ belowT.readPos_le, fun k e found x above under => ?_⟩
  rw [queueEq] at found
  by_cases atStart : k = f.start
  · -- the stored piece lies inside the pushed frame
    subst atStart
    rw [AList.lookup_insert, Option.some.injEq] at found
    subst found
    have := within x ⟨above, under⟩
    simp only [PushFrame.Holds] at this
    omega
  · rw [AList.lookup_insert_ne atStart] at found
    exact belowT.held_lt k e found x above under

theorem push_leaves {data : List α} {offset : Nat} {doneCb : Option γ} {s s' : FrameSorter α γ}
    (run : (push data offset doneCb s).state? = some s') : PushLeaves data offset doneCb s s' := by
  cases result : push data offset doneCb s with
  | ok u s'' =>
      rw [result] at run
      cases run
      obtain ⟨t, f, shrinks, within, readPosEq, queueEq⟩ := push_stored_within result
      exact ⟨t, shrinks, readPosEq, .inr ⟨f, within, queueEq⟩⟩
  | error err s'' =>
      rw [result] at run
      cases run
      rcases push_error_steps result with ⟨-, same, -⟩ | ⟨g, f₁, replaced, t, startGap, f₂, gaps₁,
          adjusted, gaps₂, t₂, f₃, gaps₃, -, replacing, -, -, deleted, -, stored⟩
      · -- a duplicate or a failed lookup returns before anything changes
        rw [same]
        exact ⟨s, .refl s, rfl, .inl rfl⟩
      · -- too many gaps: the frames between the gaps are gone, nothing is stored
        obtain ⟨-, storedEq⟩ := store_error stored
        rw [storedEq]
        exact ⟨t₂, (replaceFrames_ok replacing).1.trans (deleteBetween_shrinks deleted), rfl, .inl rfl⟩
  | panic m =>
      rw [result] at run
      cases run

theorem Push_leaves {data : List α} {offset : Nat} {doneCb : Option γ} {s s' : FrameSorter α γ}
    (run : (Push data offset doneCb s).state? = some s') : PushLeaves data offset doneCb s s' := by
  unfold Push at run
  rw [Call.handle_apply] at run
  cases result : push data offset doneCb s with
  | ok u t =>
      rw [result] at run
      exact push_leaves (by rw [result]; exact run)
  | error err t =>
      obtain ⟨u, shrinks, readPosEq, stored⟩ := push_leaves (by rw [result]; rfl : (push data offset doneCb s).state? = some t)
      rw [result] at run
      dsimp only at run
      by_cases duplicate : err = errDuplicateStreamData
      · simp only [duplicate, ↓reduceIte, callDone, Call.modify_apply, Result.state?,
          Option.some.injEq] at run
        rw [← run]
        exact ⟨u, shrinks, readPosEq, stored⟩
      · simp only [duplicate, ↓reduceIte, Call.fail_apply, Result.state?, Option.some.injEq] at run
        rw [← run]
        exact ⟨u, shrinks, readPosEq, stored⟩
  | panic m =>
      rw [result] at run
      cases run

theorem Below.mono {bound bound' : Nat} {s : FrameSorter α γ} (below : Below bound s)
    (larger : bound ≤ bound') : Below bound' s :=
  ⟨Nat.le_trans below.readPos_le larger,
    fun k e found x above under => Nat.lt_of_lt_of_le (below.held_lt k e found x above under) larger⟩

theorem pop_ok {s s' : FrameSorter α γ} {offset : Nat} {data : Option (List α)} {doneCb : Option γ}
    (run : pop s = .ok (offset, data, doneCb) s') :
    offset = s.readPos ∧
      ((data = none ∧ s' = s) ∨
        ∃ entry, s.queue.lookup s.readPos = some entry ∧ data = some entry.data ∧
          s' = { s with queue := s.queue.erase s.readPos, readPos := s.readPos + entry.data.length }) := by
  unfold pop at run
  cases found : s.queue.lookup s.readPos with
  | none =>
      simp only [found, Result.ok.injEq, Prod.mk.injEq] at run
      exact ⟨run.1.1.symm, .inl ⟨run.1.2.1.symm, run.2.symm⟩⟩
  | some entry =>
      simp only [found] at run
      split at run
      · cases run
      · split_ifs at run
        simp only [Result.ok.injEq, Prod.mk.injEq] at run
        exact ⟨run.1.1.symm, .inr ⟨entry, rfl, run.1.2.1.symm, run.2.symm⟩⟩

theorem pop_below {bound : Nat} {s s' : FrameSorter α γ} {offset : Nat} {data : Option (List α)}
    {doneCb : Option γ} (below : Below bound s) (run : pop s = .ok (offset, data, doneCb) s') :
    Below bound s' := by
  obtain ⟨-, ⟨-, rfl⟩ | ⟨entry, found, -, rfl⟩⟩ := pop_ok run
  · exact below
  · refine ⟨?_, fun k e found' => ?_⟩
    · -- the read position moves to the end of the popped frame, which lies below `bound`
      cases entryData : entry.data with
      | nil => simpa [entryData] using below.readPos_le
      | cons x rest =>
          have last := below.held_lt _ entry found (s.readPos + rest.length) (by omega)
            (by simp [entryData])
          simp only [List.length_cons]
          omega
    · by_cases atReadPos : k = s.readPos
      · subst atReadPos
        simp [AList.lookup_erase] at found'
      · rw [AList.lookup_erase_ne atReadPos] at found'
        exact below.held_lt k e found'

end FrameSorter

end QuicFec
