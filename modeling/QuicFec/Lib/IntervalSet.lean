import Mathlib

/-! # Finite sets of integers as lists of runs

A finite set of integers kept as the list of its maximal runs: closed
intervals in increasing order, at least one integer missing between two
neighbours (`Separated`).  `points` is the set such a list covers.  A maximal
run of a set begins at a point whose predecessor is missing (`runStarts`), so
the runs of a set above a point can be counted on the set alone, and keeping
the `k` highest runs of a set (`keepTopRuns`) is dropping the front of its
list (`points_drop_eq_keepTopRuns`). -/
set_option autoImplicit false

namespace IntervalSet

/-- The integers from `start` to `finish`. -/
structure Interval where
  start : Int
  finish : Int
deriving DecidableEq, Repr

/-- The integers a list of intervals covers. -/
noncomputable def points : List Interval → Finset Int
  | [] => ∅
  | r :: rs => Finset.Icc r.start r.finish ∪ points rs

@[simp] theorem points_nil : points [] = ∅ := rfl

@[simp] theorem points_cons (r : Interval) (rs : List Interval) :
    points (r :: rs) = Finset.Icc r.start r.finish ∪ points rs := rfl

theorem mem_points {l : List Interval} {q : Int} :
    q ∈ points l ↔ ∃ r ∈ l, r.start ≤ q ∧ q ≤ r.finish := by
  induction l with
  | nil => simp
  | cons r rs ih => simp [ih]

@[simp] theorem points_append (l l' : List Interval) : points (l ++ l') = points l ∪ points l' := by
  induction l with
  | nil => simp
  | cons r rs ih => simp [ih, Finset.union_assoc]

theorem not_mem_points {l : List Interval} {q : Int} (outside : ∀ r ∈ l, q < r.start ∨ r.finish < q) :
    q ∉ points l := by
  rw [mem_points]
  rintro ⟨r, member, atLeast, atMost⟩
  rcases outside r member with below | above <;> omega

theorem lt_of_mem_points {l : List Interval} {x q : Int} (above : ∀ b ∈ l, x < b.start)
    (inside : q ∈ points l) : x < q := by
  obtain ⟨b, member, atLeast, -⟩ := mem_points.mp inside
  have := above b member
  omega

theorem points_splice (xs mid ys : List Interval) {r : Interval} {p : Int}
    (cover : ∀ q, r.start ≤ q ∧ q ≤ r.finish ↔ q = p ∨ q ∈ points mid) :
    points (xs ++ r :: ys) = insert p (points (xs ++ mid ++ ys)) := by
  ext q
  simp only [points_append, points_cons, Finset.mem_union, Finset.mem_insert, Finset.mem_Icc,
    cover q]
  tauto

/-! ## Separated lists -/

/-- Intervals in increasing order, none empty, with a gap between neighbours. -/
structure Separated (l : List Interval) : Prop where
  nonempty : ∀ r ∈ l, r.start ≤ r.finish
  apart : l.Pairwise fun a b => a.finish + 1 < b.start

theorem separated_nil : Separated [] := ⟨by simp, List.Pairwise.nil⟩

theorem separated_cons_iff {r : Interval} {rs : List Interval} :
    Separated (r :: rs) ↔ r.start ≤ r.finish ∧ (∀ b ∈ rs, r.finish + 1 < b.start) ∧ Separated rs := by
  constructor
  · rintro ⟨nonempty, apart⟩
    rw [List.pairwise_cons] at apart
    exact ⟨nonempty r List.mem_cons_self, apart.1,
      ⟨fun b member => nonempty b (List.mem_cons_of_mem r member), apart.2⟩⟩
  · rintro ⟨first, below, rest⟩
    refine ⟨?_, List.pairwise_cons.mpr ⟨below, rest.apart⟩⟩
    intro b member
    rcases List.mem_cons.mp member with rfl | later
    · exact first
    · exact rest.nonempty b later

theorem separated_append_iff {l l' : List Interval} :
    Separated (l ++ l') ↔
      Separated l ∧ Separated l' ∧ ∀ a ∈ l, ∀ b ∈ l', a.finish + 1 < b.start := by
  constructor
  · rintro ⟨nonempty, apart⟩
    rw [List.pairwise_append] at apart
    exact ⟨⟨fun r member => nonempty r (List.mem_append_left l' member), apart.1⟩,
      ⟨fun r member => nonempty r (List.mem_append_right l member), apart.2.1⟩, apart.2.2⟩
  · rintro ⟨left, right, across⟩
    refine ⟨?_, List.pairwise_append.mpr ⟨left.apart, right.apart, across⟩⟩
    intro r member
    rcases List.mem_append.mp member with inLeft | inRight
    · exact left.nonempty r inLeft
    · exact right.nonempty r inRight

theorem Separated.splice {xs mid ys : List Interval} (sep : Separated (xs ++ mid ++ ys))
    {r : Interval} (nonempty : r.start ≤ r.finish) (below : ∀ a ∈ xs, a.finish + 1 < r.start)
    (above : ∀ b ∈ ys, r.finish + 1 < b.start) : Separated (xs ++ r :: ys) := by
  obtain ⟨left, middleRight, -⟩ := separated_append_iff.mp (List.append_assoc xs mid ys ▸ sep)
  obtain ⟨-, right, -⟩ := separated_append_iff.mp middleRight
  refine separated_append_iff.mpr ⟨left, separated_cons_iff.mpr ⟨nonempty, above, right⟩, ?_⟩
  intro a inLeft b member
  rcases List.mem_cons.mp member with rfl | inRight
  · exact below a inLeft
  · -- `a` lies below `mid`'s successors in the original list
    have := (separated_append_iff.mp sep).2.2 a (List.mem_append_left mid inLeft) b inRight
    exact this

theorem Separated.sublist {l l' : List Interval} (sep : Separated l) (sub : l'.Sublist l) :
    Separated l' :=
  ⟨fun r member => sep.nonempty r (sub.subset member), sep.apart.sublist sub⟩

theorem not_mem_points_around {xs ys : List Interval} {el : Interval}
    (sep : Separated (xs ++ el :: ys)) {p : Int} (near : el.start ≤ p + 1)
    (outside : ¬ (el.start ≤ p ∧ p ≤ el.finish)) (above : ∀ b ∈ ys, p < b.start) :
    p ∉ points (xs ++ el :: ys) := by
  obtain ⟨-, -, across⟩ := separated_append_iff.mp sep
  refine not_mem_points fun r member => ?_
  rcases List.mem_append.mp member with inXs | inRest
  · have := across r inXs el List.mem_cons_self
    omega
  · rcases List.mem_cons.mp inRest with rfl | inYs
    · omega
    · exact Or.inl (above r inYs)

theorem Separated.apart_of_mem {l : List Interval} (sep : Separated l) {a b : Interval}
    (inA : a ∈ l) (inB : b ∈ l) (different : a ≠ b) :
    a.finish + 1 < b.start ∨ b.finish + 1 < a.start := by
  have : Std.Symm fun x y : Interval => x.finish + 1 < y.start ∨ y.finish + 1 < x.start :=
    ⟨fun _ _ => Or.symm⟩
  have eitherWay : l.Pairwise fun x y : Interval =>
      x.finish + 1 < y.start ∨ y.finish + 1 < x.start := sep.apart.imp Or.inl
  exact eitherWay.forall inA inB different

theorem Separated.start_lt {l : List Interval} (sep : Separated l) :
    (l.map (·.start)).Pairwise (· < ·) := by
  rw [List.pairwise_map]
  refine List.Pairwise.imp_of_mem ?_ sep.apart
  intro a b inA _ gap
  have := sep.nonempty a inA
  omega

/-! ## Runs of a set -/

/-- The points of `s` that begin a maximal run. -/
def runStarts (s : Finset Int) : Finset Int := s.filter fun r => r - 1 ∉ s

/-- The number of maximal runs of `s` that begin above `q`. -/
def runsAbove (s : Finset Int) (q : Int) : Nat := ((runStarts s).filter (q < ·)).card

/-- The points of `s` in its `k` highest maximal runs. -/
def keepTopRuns (k : Nat) (s : Finset Int) : Finset Int := s.filter fun q => runsAbove s q < k

theorem runStarts_points {l : List Interval} (sep : Separated l) :
    runStarts (points l) = (l.map (·.start)).toFinset := by
  ext r
  simp only [runStarts, Finset.mem_filter, List.mem_toFinset, List.mem_map]
  constructor
  · rintro ⟨inside, predecessorMissing⟩
    obtain ⟨b, member, atLeast, atMost⟩ := mem_points.mp inside
    have : ¬ (b.start ≤ r - 1 ∧ r - 1 ≤ b.finish) := fun inB =>
      predecessorMissing (mem_points.mpr ⟨b, member, inB⟩)
    exact ⟨b, member, by omega⟩
  · rintro ⟨b, member, rfl⟩
    refine ⟨mem_points.mpr ⟨b, member, le_refl _, sep.nonempty b member⟩, not_mem_points ?_⟩
    intro c inC
    have := sep.nonempty b member
    by_cases same : b = c
    · subst same
      omega
    · rcases sep.apart_of_mem member inC same with gap | gap <;> omega

theorem runsAbove_points {l : List Interval} (sep : Separated l) (q : Int) :
    runsAbove (points l) q = l.countP fun r => q < r.start := by
  have distinct : (l.map (·.start)).Nodup := sep.start_lt.imp ne_of_lt
  rw [runsAbove, runStarts_points sep, distinct.card_eq_countP, List.countP_map]
  rfl

theorem countP_lt_length_of_mem {l : List Interval} {q : Int} (inside : q ∈ points l) :
    l.countP (fun r => q < r.start) < l.length := by
  obtain ⟨r, member, atLeast, -⟩ := mem_points.mp inside
  have atMost : l.countP (fun r => q < r.start) ≤ l.length := List.countP_le_length
  have notAll : l.countP (fun r => q < r.start) ≠ l.length := by
    rw [Ne, List.countP_eq_length]
    intro all
    have := all r member
    simp only [decide_eq_true_eq] at this
    omega
  omega

theorem mem_points_drop {l : List Interval} (sep : Separated l) (m : Nat) (q : Int) :
    q ∈ points (l.drop m) ↔ q ∈ points l ∧ l.countP (fun r => q < r.start) < l.length - m := by
  induction l generalizing m with
  | nil => simp
  | cons a rs ih =>
      obtain ⟨first, below, rest⟩ := separated_cons_iff.mp sep
      cases m with
      | zero =>
          simp only [List.drop_zero, Nat.sub_zero]
          exact ⟨fun inside => ⟨inside, countP_lt_length_of_mem inside⟩, And.left⟩
      | succ k =>
          have laterAbove : q ∈ points rs → a.start ≤ q := fun inside => by
            have := lt_of_mem_points (fun b member => below b member) inside
            have := first
            omega
          simp only [List.drop_succ_cons, ih rest k, List.countP_cons, List.length_cons,
            Nat.add_sub_add_right, points_cons, Finset.mem_union, Finset.mem_Icc]
          have notBelow : q ∈ points rs → ¬ q < a.start := fun inside => by
            have := laterAbove inside
            omega
          constructor
          · rintro ⟨inside, fewer⟩
            exact ⟨Or.inr inside, by simpa [notBelow inside] using fewer⟩
          · rintro ⟨inA | inside, fewer⟩
            · have allAbove : rs.countP (fun r => q < r.start) = rs.length := by
                rw [List.countP_eq_length]
                intro b member
                have := below b member
                simp only [decide_eq_true_eq]
                omega
              omega
            · exact ⟨inside, by simpa [notBelow inside] using fewer⟩

theorem points_drop_eq_keepTopRuns {l : List Interval} (sep : Separated l) (k : Nat) :
    points (l.drop (l.length - k)) = keepTopRuns k (points l) := by
  ext q
  rw [mem_points_drop sep, keepTopRuns, Finset.mem_filter, runsAbove_points sep]
  refine and_congr_right fun inside => ?_
  have := countP_lt_length_of_mem inside
  omega

end IntervalSet
