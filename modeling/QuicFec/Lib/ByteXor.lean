import Mathlib

/-! # Bytewise XOR

Byte strings combined position by position with XOR, the arithmetic of a
single-parity erasure code.  `xorWith bytes f` XORs `f i` into the byte at `i`;
`xorSum fs i` is the XOR of the values at `i` of a family of byte functions.
XOR is associative, commutative and its own inverse, so a sum does not depend
on the order of the family (`xorSum_perm`), and XORing the sum of the others
into the sum of all leaves the one left out (`xorSum_cons_xor_cancel`). -/
set_option autoImplicit false

namespace ByteXor

/-- `bytes[i] ^= f(i)` for every index of `bytes`. -/
def xorWith (bytes : List UInt8) (f : Nat → UInt8) : List UInt8 :=
  bytes.mapIdx fun i b => b ^^^ f i

@[simp] theorem length_xorWith (bytes : List UInt8) (f : Nat → UInt8) :
    (xorWith bytes f).length = bytes.length := by
  simp [xorWith]

@[simp] theorem getElem_xorWith (bytes : List UInt8) (f : Nat → UInt8) (i : Nat)
    (h : i < (xorWith bytes f).length) :
    (xorWith bytes f)[i] = bytes.get ⟨i, by simpa using h⟩ ^^^ f i := by
  simp [xorWith]

theorem xorWith_xorWith (bytes : List UInt8) (f g : Nat → UInt8) :
    xorWith (xorWith bytes f) g = xorWith bytes (fun i => f i ^^^ g i) := by
  apply List.ext_getElem (by simp)
  intro i _ _
  simp [UInt8.xor_assoc]

theorem xorWith_zero (bytes : List UInt8) : xorWith bytes (fun _ => 0) = bytes := by
  apply List.ext_getElem (by simp)
  intro i _ _
  simp

theorem set_xor_eq_xorWith (bytes : List UInt8) (n : Nat) (inside : n < bytes.length) (x : UInt8) :
    bytes.set n (bytes[n] ^^^ x) = xorWith bytes (fun i => if i = n then x else 0) := by
  apply List.ext_getElem (by simp)
  intro i _ _
  by_cases here : i = n
  · subst here
    simp
  · simp [Ne.symm here, here]

theorem getD_xorWith_replicate_zero (n : Nat) (f : Nat → UInt8) (i : Nat) :
    (xorWith (List.replicate n 0) f).getD i 0 = if i < n then f i else 0 := by
  by_cases below : i < n
  · simp [below, List.getD_eq_getElem?_getD]
  · simp [below, List.getD_eq_getElem?_getD]

/-! ## Sums of a family -/

/-- The XOR of `f i` over the family. -/
def xorSum (fs : List (Nat → UInt8)) (i : Nat) : UInt8 :=
  fs.foldr (fun f acc => f i ^^^ acc) 0

@[simp] theorem xorSum_nil (i : Nat) : xorSum [] i = 0 := rfl

@[simp] theorem xorSum_cons (f : Nat → UInt8) (fs : List (Nat → UInt8)) (i : Nat) :
    xorSum (f :: fs) i = f i ^^^ xorSum fs i := rfl

theorem xorSum_perm {fs gs : List (Nat → UInt8)} (perm : fs.Perm gs) : xorSum fs = xorSum gs := by
  funext i
  induction perm with
  | nil => rfl
  | cons f _ ih => simp [ih]
  | swap f g fs => simp [← UInt8.xor_assoc, UInt8.xor_comm (g i)]
  | trans _ _ ih₁ ih₂ => exact ih₁.trans ih₂

theorem xorSum_eq_zero {fs : List (Nat → UInt8)} {i : Nat} (zero : ∀ f ∈ fs, f i = 0) :
    xorSum fs i = 0 := by
  induction fs with
  | nil => rfl
  | cons f fs ih =>
      rw [xorSum_cons, zero f List.mem_cons_self,
        ih (fun g member => zero g (List.mem_cons_of_mem f member)), UInt8.xor_zero]

theorem xorSum_cons_xor_cancel (f : Nat → UInt8) (fs : List (Nat → UInt8)) (i : Nat) :
    xorSum (f :: fs) i ^^^ xorSum fs i = f i := by
  rw [xorSum_cons, UInt8.xor_assoc, UInt8.xor_self, UInt8.xor_zero]

end ByteXor
