import Mathlib

/-! # Linked lists with element handles

Go's `container/list` hands out pointers to its elements, and code holds them
while it removes or inserts other elements.  Here a list is the sequence of its
slots and an element is the index of its slot.  `Remove` empties the slot, so
every other element keeps its handle; the list's values are its filled slots,
front to back.

`InsertAfter` adds a slot and so moves the handles of the elements after the
mark; code that inserts last, as the callers here do, never notices. -/
set_option autoImplicit false

namespace Go

/-- `list.List[T]`, as the slots of its elements. -/
structure LinkedList (α : Type) where
  slots : List (Option α)

namespace LinkedList

variable {α : Type}

/-- A list holding `xs`, element `i` holding `xs[i]`. -/
def ofList (xs : List α) : LinkedList α := ⟨xs.map some⟩

/-- The values of the elements still in the list, front to back. -/
def values (l : LinkedList α) : List α := l.slots.reduceOption

def len (l : LinkedList α) : Nat := l.values.length

/-- `e.Value` of an element still in the list. -/
def value? (l : LinkedList α) (e : Nat) : Option α := l.slots[e]?.join

/-- `e.Value = v`. -/
def setValue (l : LinkedList α) (e : Nat) (v : α) : LinkedList α := ⟨l.slots.set e (some v)⟩

/-- An assignment to a field of `e.Value`, such as `e.Value.Start = x`. -/
def modifyValue (l : LinkedList α) (e : Nat) (f : α → α) : LinkedList α :=
  ⟨l.slots.modify e (Option.map f)⟩

def remove (l : LinkedList α) (e : Nat) : LinkedList α := ⟨l.slots.set e none⟩

/-- The first element at or after slot `i` of `slots`. -/
def firstFrom : List (Option α) → Nat → Option Nat
  | [], _ => none
  | some _ :: _, i => some i
  | none :: rest, i => firstFrom rest (i + 1)

/-- `e.Next()`: the next element still in the list, nil after the last. -/
def next (l : LinkedList α) (e : Nat) : Option Nat := firstFrom (l.slots.drop (e + 1)) (e + 1)

def insertAfter (l : LinkedList α) (v : α) (mark : Nat) : LinkedList α :=
  ⟨l.slots.take (mark + 1) ++ some v :: l.slots.drop (mark + 1)⟩

/-! ## Values after each operation -/

@[simp] theorem values_ofList (xs : List α) : (ofList xs).values = xs := by
  induction xs with
  | nil => rfl
  | cons x xs ih => simpa [ofList, values, List.reduceOption_cons_of_some] using ih

@[simp] theorem length_slots_setValue (l : LinkedList α) (e : Nat) (v : α) :
    (l.setValue e v).slots.length = l.slots.length := by simp [setValue]

@[simp] theorem length_slots_remove (l : LinkedList α) (e : Nat) :
    (l.remove e).slots.length = l.slots.length := by simp [remove]

@[simp] theorem slots_ofList (xs : List α) : (ofList xs).slots = xs.map some := rfl

theorem value?_ofList (xs : List α) (e : Nat) : (ofList xs).value? e = xs[e]? := by
  simp only [value?, ofList, List.getElem?_map]
  cases xs[e]? <;> rfl

theorem value?_lt {l : LinkedList α} {e : Nat} {v : α} (present : l.value? e = some v) :
    e < l.slots.length := by
  unfold value? at present
  by_contra past
  rw [List.getElem?_eq_none (by omega)] at present
  cases present

theorem values_eq_around (l : LinkedList α) (e : Nat) :
    l.values = (l.slots.take e).reduceOption ++ (l.slots[e]?.join).toList ++
      (l.slots.drop (e + 1)).reduceOption := by
  unfold values
  conv_lhs => rw [← List.take_append_drop e l.slots]
  rw [List.reduceOption_append, List.append_assoc]
  congr 1
  cases around : l.slots.drop e with
  | nil =>
      have past : l.slots.length ≤ e := List.drop_eq_nil_iff.mp around
      simp [List.getElem?_eq_none past, List.drop_eq_nil_of_le (by omega : l.slots.length ≤ e + 1)]
  | cons x rest =>
      have atE : l.slots[e]? = some x := by
        rw [← List.head?_drop, around]
        rfl
      have restEq : l.slots.drop (e + 1) = rest := by
        rw [← List.drop_drop, around]
        rfl
      rw [atE, restEq]
      cases x <;> simp [List.reduceOption_cons_of_some, List.reduceOption_cons_of_none]

theorem values_setValue (l : LinkedList α) {e : Nat} (inList : e < l.slots.length) (v : α) :
    (l.setValue e v).values =
      (l.slots.take e).reduceOption ++ [v] ++ (l.slots.drop (e + 1)).reduceOption := by
  rw [values_eq_around _ e]
  simp [setValue, List.take_set_of_le, List.getElem?_set_self inList, List.drop_set_of_lt]

theorem modifyValue_eq_setValue (l : LinkedList α) {e : Nat} {v : α} (present : l.value? e = some v)
    (f : α → α) : l.modifyValue e f = l.setValue e (f v) := by
  have inList := value?_lt present
  unfold value? at present
  cases slot : l.slots[e]? with
  | none => simp [slot] at present
  | some x =>
      rw [slot] at present
      cases x with
      | none => cases present
      | some w =>
          simp only [Option.join_some, Option.some.injEq] at present
          subst present
          simp [modifyValue, setValue, List.modify_eq_set_getElem?, slot]

theorem values_remove (l : LinkedList α) (e : Nat) :
    (l.remove e).values = (l.slots.take e).reduceOption ++ (l.slots.drop (e + 1)).reduceOption := by
  rw [values_eq_around _ e]
  by_cases inList : e < l.slots.length
  · simp [remove, List.take_set_of_le, List.getElem?_set_self inList, List.drop_set_of_lt]
  · simp [remove, List.set_eq_of_length_le (by omega : l.slots.length ≤ e),
      List.getElem?_eq_none (by omega : l.slots.length ≤ e)]

theorem values_insertAfter (l : LinkedList α) (mark : Nat) (v : α) :
    (l.insertAfter v mark).values =
      (l.slots.take (mark + 1)).reduceOption ++ [v] ++ (l.slots.drop (mark + 1)).reduceOption := by
  simp [insertAfter, values, List.reduceOption_append, List.reduceOption_cons_of_some]

/-! ## Lengths -/

theorem len_ofList (xs : List α) : (ofList xs).len = xs.length := by
  rw [len, values_ofList]

theorem len_remove_le (l : LinkedList α) (e : Nat) : (l.remove e).len ≤ l.len := by
  unfold len
  rw [values_remove, values_eq_around l e]
  simp only [List.length_append]
  omega

theorem len_insertAfter (l : LinkedList α) (v : α) (mark : Nat) : (l.insertAfter v mark).len = l.len + 1 := by
  unfold len
  rw [values_insertAfter, values]
  conv_rhs => rw [← List.take_append_drop (mark + 1) l.slots]
  simp only [List.reduceOption_append, List.length_append, List.length_singleton]
  omega

theorem modifyValue_of_none {l : LinkedList α} {e : Nat} (absent : l.value? e = none) (f : α → α) :
    l.modifyValue e f = l := by
  unfold value? at absent
  cases l with
  | mk slots =>
    simp only [modifyValue, LinkedList.mk.injEq]
    rw [List.modify_eq_set_getElem?]
    cases slot : slots[e]? with
    | none => simp
    | some x =>
      rw [slot] at absent
      cases x with
      | none =>
        obtain ⟨inList, atE⟩ := List.getElem?_eq_some_iff.mp slot
        simp only [Option.map_eq_map, Option.map_some, Option.map_none, Option.getD_some]
        conv_lhs => rw [← atE]
        exact List.set_getElem_self inList
      | some _ => cases absent

theorem len_modifyValue (l : LinkedList α) (e : Nat) (f : α → α) : (l.modifyValue e f).len = l.len := by
  cases present : l.value? e with
  | none => rw [modifyValue_of_none present]
  | some v =>
    rw [modifyValue_eq_setValue l present, len, values_setValue l (value?_lt present), len, values_eq_around l e]
    unfold value? at present
    rw [present]
    simp

/-! ## Walking the list -/

theorem firstFrom_bounds : ∀ (slots : List (Option α)) (i j : Nat), firstFrom slots i = some j →
    i ≤ j ∧ j < i + slots.length
  | [], _, _, found => by simp [firstFrom] at found
  | some _ :: _, i, j, found => by
      simp only [firstFrom, Option.some.injEq] at found
      subst found
      simp
  | none :: rest, i, j, found => by
      have later := firstFrom_bounds rest (i + 1) j found
      simp only [List.length_cons]
      omega

theorem next_measure_lt (l : LinkedList α) {e : Nat} {v : α} (present : l.value? e = some v) :
    l.slots.length + 1 - (l.next e).getD l.slots.length < l.slots.length + 1 - e := by
  have inList := value?_lt present
  cases walk : l.next e with
  | none =>
      simp only [Option.getD_none]
      omega
  | some e' =>
      have bounds := firstFrom_bounds _ _ _ walk
      simp only [List.length_drop] at bounds
      simp only [Option.getD_some]
      omega

end LinkedList

end Go
