import Mathlib.Data.List.Basic

/-! # Windows of a ring

A ring of `cap` cells kept in a list, and the `count` cells from a `head`
position on, wrapping around the end of the list once at most: how a ring
buffer's queue lies in its array.  Writing a cell outside the window keeps
it; writing the cell just past it grows it by that cell; moving the head one
cell on drops its first cell; and a window of the whole ring is the list
rotated to start at the head. -/
set_option autoImplicit false

namespace RingWindow

variable {α : Type}

/-- The cell `offset` cells after `head` in a ring of `cap` cells, for an
offset that wraps around the end once at most. -/
def index (head offset cap : Nat) : Nat :=
  if head + offset < cap then head + offset else head + offset - cap

/-- The `count` cells from `head` on, in order; the default value for a cell
past the end of the list. -/
def window [Inhabited α] (cells : List α) (head : Nat) : Nat → List α
  | 0 => []
  | count + 1 => window cells head count ++ [cells.getD (index head count cells.length) default]

section Index

variable {head cap : Nat}

theorem index_lt (inRing : head < cap) {offset : Nat} (atMost : offset ≤ cap) : index head offset cap < cap := by
  unfold index
  split <;> omega

@[simp] theorem index_zero (inRing : head < cap) : index head 0 cap = head := by
  simp [index, inRing]

theorem index_ne {a b : Nat} (before : a < b) (short : b < cap) :
    index head a cap ≠ index head b cap := by
  unfold index
  split <;> split <;> omega

theorem index_index_one (inRing : head < cap) {offset : Nat} (short : offset + 1 ≤ cap) :
    index (index head 1 cap) offset cap = index head (offset + 1) cap := by
  unfold index
  split <;> split <;> split <;> omega

end Index

section Window

variable [Inhabited α]

@[simp] theorem length_window (cells : List α) (head count : Nat) :
    (window cells head count).length = count := by
  induction count with
  | zero => rfl
  | succ count ih => simp [window, ih]

theorem window_set_outside (cells : List α) (head count i : Nat) (value : α)
    (outside : ∀ offset, offset < count → i ≠ index head offset cells.length) :
    window (cells.set i value) head count = window cells head count := by
  induction count with
  | zero => rfl
  | succ count ih =>
    have other := outside count (Nat.lt_succ_self count)
    simp only [window, List.length_set]
    rw [ih fun offset before => outside offset (by omega), List.getD_eq_getElem?_getD,
      List.getElem?_set_ne other, ← List.getD_eq_getElem?_getD]

theorem window_set_next (cells : List α) {head count : Nat} (value : α) (inRing : head < cells.length)
    (short : count < cells.length) :
    window (cells.set (index head count cells.length) value) head (count + 1) =
      window cells head count ++ [value] := by
  have next := index_lt inRing (Nat.le_of_lt short)
  simp only [window, List.length_set]
  rw [window_set_outside cells head count _ value fun offset before => (index_ne before short).symm,
    List.getD_eq_getElem?_getD, List.getElem?_set_self next, Option.getD_some]

theorem window_succ (cells : List α) {head count : Nat} (inRing : head < cells.length)
    (fits : count + 1 ≤ cells.length) :
    window cells head (count + 1) =
      cells.getD head default :: window cells (index head 1 cells.length) count := by
  induction count with
  | zero => simp [window, inRing]
  | succ count ih =>
    rw [window, ih (by omega), window, index_index_one inRing (by omega), List.cons_append]

theorem window_eq_take (cells : List α) {head : Nat} (inRing : head < cells.length) :
    ∀ count, count ≤ cells.length → window cells head count = (cells.drop head ++ cells.take head).take count
  | 0, _ => by simp [window]
  | count + 1, fits => by
    rw [window, window_eq_take cells inRing count (by omega), List.take_add_one]
    congr 1
    unfold index
    split
    · rw [List.getElem?_append_left (by simp; omega), List.getElem?_drop, List.getD_eq_getElem?_getD,
        List.getElem?_eq_getElem (by omega)]
      simp
    · have wrapped : head + count - cells.length = count - (cells.length - head) := by omega
      rw [List.getElem?_append_right (by simp; omega), List.length_drop, wrapped,
        List.getElem?_take_of_lt (by omega), List.getD_eq_getElem?_getD, List.getElem?_eq_getElem (by omega)]
      simp

theorem window_length (cells : List α) {head : Nat} (inRing : head < cells.length) :
    window cells head cells.length = cells.drop head ++ cells.take head := by
  rw [window_eq_take cells inRing _ (Nat.le_refl _), List.take_of_length_le]
  simp
  omega

end Window

end RingWindow
