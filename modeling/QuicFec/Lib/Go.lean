import Mathlib

/-! # Go calls as state-passing computations

A Go method with a pointer receiver that returns `(T, error)` is modeled as a
function from the receiver's state to a `Result`: it returns a value and the
state it left behind, returns a non-nil error together with the state it left
behind (Go never rolls a receiver back), or panics.  A panic ends the program,
so no state is kept for it.

`Go σ` is the monad of such calls; `do` blocks over it read like the Go code
they model, and the lemmas below let proofs peel one call off at a time. -/
set_option autoImplicit false

namespace Go

/-- How a call on a receiver of type `σ` ends. -/
inductive Result (σ α : Type) where
  | ok (value : α) (state : σ)
  | error (message : String) (state : σ)
  | panic (message : String)
deriving DecidableEq, Repr

/-- A call on a receiver of type `σ` returning `α`. -/
def Call (σ α : Type) := σ → Result σ α

/-- What the Go runtime panics with on a nil pointer dereference. -/
def nilDereferenceMessage : String := "runtime error: invalid memory address or nil pointer dereference"

namespace Call

variable {σ α β : Type}

protected def pure (a : α) : Call σ α := fun s => .ok a s

protected def bind (x : Call σ α) (f : α → Call σ β) : Call σ β := fun s =>
  match x s with
  | .ok a s' => f a s'
  | .error e s' => .error e s'
  | .panic m => .panic m

instance : Monad (Call σ) where
  pure := Call.pure
  bind := Call.bind

/-- The receiver as it is now. -/
def get : Call σ σ := fun s => .ok s s

/-- Overwrite the receiver. -/
def set (s : σ) : Call σ Unit := fun _ => .ok () s

/-- `return nil, errors.New(message)`. -/
def fail (message : String) : Call σ α := fun s => .error message s

/-- `panic(message)`, or a runtime panic (nil dereference, index out of range). -/
def panic (message : String) : Call σ α := fun _ => .panic message

/-- Change the receiver in place. -/
def modify (f : σ → σ) : Call σ Unit := fun s => .ok () (f s)

/-- `if c { return errors.New(message) }`. -/
def failIf (c : Prop) [Decidable c] (message : String) : Call σ Unit :=
  if c then fail message else fun s => .ok () s

/-- The value `o` holds, or a panic with `message` where the Go code finds none. -/
def orPanic (message : String) : Option α → Call σ α
  | some a => fun s => .ok a s
  | none => panic message

/-- Follow a pointer that may be nil. -/
def deref : Option α → Call σ α := orPanic nilDereferenceMessage

/-- `if err := x(); err != nil { return handler(err) }`: the error `x`
returns goes to `handler`, with the state `x` left. -/
def handle (x : Call σ α) (handler : String → Call σ α) : Call σ α := fun s =>
  match x s with
  | .error e s' => handler e s'
  | r => r

/-- The error `x` returns, as a value: what the caller's `if err != nil` tests. -/
def attempt (x : Call σ α) : Call σ (Except String α) := fun s =>
  match x s with
  | .ok a s' => .ok (.ok a) s'
  | .error e s' => .ok (.error e) s'
  | .panic m => .panic m

@[simp] theorem pure_apply (a : α) (s : σ) : (pure a : Call σ α) s = .ok a s := rfl

@[simp] theorem modify_apply (f : σ → σ) (s : σ) : (modify f : Call σ Unit) s = .ok () (f s) := rfl

@[simp] theorem failIf_apply (c : Prop) [Decidable c] (message : String) (s : σ) :
    (failIf c message : Call σ Unit) s = if c then .error message s else .ok () s := by
  by_cases holds : c <;> simp [failIf, holds, fail]

@[simp] theorem orPanic_some (message : String) (a : α) (s : σ) :
    (orPanic message (some a) : Call σ α) s = .ok a s := rfl

@[simp] theorem orPanic_none (message : String) (s : σ) :
    (orPanic message none : Call σ α) s = .panic message := rfl

@[simp] theorem deref_some (a : α) (s : σ) : (deref (some a) : Call σ α) s = .ok a s := rfl

@[simp] theorem deref_none (s : σ) : (deref none : Call σ α) s = .panic nilDereferenceMessage := rfl

@[simp] theorem handle_apply (x : Call σ α) (handler : String → Call σ α) (s : σ) :
    handle x handler s =
      match x s with
      | .error e s' => handler e s'
      | r => r := rfl

@[simp] theorem attempt_apply (x : Call σ α) (s : σ) :
    attempt x s =
      match x s with
      | .ok a s' => .ok (.ok a) s'
      | .error e s' => .ok (.error e) s'
      | .panic m => .panic m := rfl

@[simp] theorem ite_apply (c : Prop) [Decidable c] (x y : Call σ α) (s : σ) :
    (if c then x else y) s = if c then x s else y s := by
  by_cases h : c
  · rw [if_pos h, if_pos h]
  · rw [if_neg h, if_neg h]

@[simp] theorem bind_apply (x : Call σ α) (f : α → Call σ β) (s : σ) :
    (x >>= f) s =
      match x s with
      | .ok a s' => f a s'
      | .error e s' => .error e s'
      | .panic m => .panic m := rfl

@[simp] theorem get_apply (s : σ) : (get : Call σ σ) s = .ok s s := rfl

@[simp] theorem set_apply (s s' : σ) : (set s' : Call σ Unit) s = .ok () s' := rfl

@[simp] theorem fail_apply (message : String) (s : σ) :
    (fail message : Call σ α) s = .error message s := rfl

@[simp] theorem panic_apply (message : String) (s : σ) :
    (Call.panic message : Call σ α) s = .panic message := rfl

theorem bind_of_ok {x : Call σ α} {f : α → Call σ β} {s s' : σ} {a : α}
    (run : x s = .ok a s') : (x >>= f) s = f a s' := by
  simp [run]

theorem bind_of_error {x : Call σ α} {f : α → Call σ β} {s s' : σ} {e : String}
    (run : x s = .error e s') : (x >>= f) s = .error e s' := by
  simp [run]

theorem bind_of_panic {x : Call σ α} {f : α → Call σ β} {s : σ} {m : String}
    (run : x s = .panic m) : (x >>= f) s = .panic m := by
  simp [run]

theorem bind_eq_ok {x : Call σ α} {f : α → Call σ β} {s s'' : σ} {b : β} :
    (x >>= f) s = .ok b s'' ↔ ∃ a s', x s = .ok a s' ∧ f a s' = .ok b s'' := by
  simp only [bind_apply]
  cases x s with
  | ok a s' =>
      constructor
      · intro run
        exact ⟨a, s', rfl, run⟩
      · rintro ⟨a', t, first, rest⟩
        cases first
        exact rest
  | error e s' => simp
  | panic m => simp

theorem pure_eq_ok {a b : α} {s s' : σ} : (pure a : Call σ α) s = .ok b s' ↔ a = b ∧ s = s' := by
  rw [pure_apply, Result.ok.injEq]

theorem ite_bind (c : Prop) [Decidable c] (x y : Call σ α) (f : α → Call σ β) :
    (if c then x >>= f else y >>= f) = (if c then x else y) >>= f := by
  split <;> rfl

theorem bind_eq_error {x : Call σ α} {f : α → Call σ β} {s s'' : σ} {e : String} :
    (x >>= f) s = .error e s'' ↔
      x s = .error e s'' ∨ ∃ a s', x s = .ok a s' ∧ f a s' = .error e s'' := by
  simp only [bind_apply]
  cases x s with
  | ok a s' =>
      constructor
      · intro run
        exact .inr ⟨a, s', rfl, run⟩
      · rintro (first | ⟨a', t, first, rest⟩)
        · cases first
        · cases first
          exact rest
  | error e' s' => simp
  | panic m => simp

/-- Run a call on one part of the receiver, reached through a pointer: what the
call does to that part stays, whether it returns a value or an error. -/
def focus {τ : Type} (view : σ → τ) (update : τ → σ → σ) (x : Call τ α) : Call σ α :=
  fun s =>
    match x (view s) with
    | .ok a t => .ok a (update t s)
    | .error e t => .error e (update t s)
    | .panic m => .panic m

@[simp] theorem focus_apply {τ : Type} (view : σ → τ) (update : τ → σ → σ) (x : Call τ α)
    (s : σ) :
    focus view update x s =
      match x (view s) with
      | .ok a t => .ok a (update t s)
      | .error e t => .error e (update t s)
      | .panic m => .panic m := rfl

theorem focus_eq_ok {τ : Type} {view : σ → τ} {update : τ → σ → σ} {x : Call τ α} {s s' : σ}
    {a : α} : focus view update x s = .ok a s' ↔ ∃ t, x (view s) = .ok a t ∧ update t s = s' := by
  rw [focus_apply]
  cases x (view s) with
  | ok b t =>
      constructor
      · intro run
        cases run
        exact ⟨t, rfl, rfl⟩
      · rintro ⟨t', returned, rfl⟩
        cases returned
        rfl
  | error e t => simp
  | panic m => simp

/-! ## Calls that only read the receiver -/

/-- `x` leaves the receiver as it is whenever it returns, with a value or an
error. -/
def Keeps (x : Call σ α) : Prop :=
  ∀ s s' (r : Result σ α), x s = r → (∀ a, r = .ok a s' → s' = s) ∧ (∀ e, r = .error e s' → s' = s)

theorem Keeps.ok {x : Call σ α} (keeps : Keeps x) {s s' : σ} {a : α} (run : x s = .ok a s') :
    s' = s :=
  (keeps s s' _ run).1 a rfl

theorem Keeps.error {x : Call σ α} (keeps : Keeps x) {s s' : σ} {e : String}
    (run : x s = .error e s') : s' = s :=
  (keeps s s' _ run).2 e rfl

theorem keeps_pure (a : α) : Keeps (pure a : Call σ α) := by
  intro s s' r run
  subst run
  simp [eq_comm]

theorem keeps_get : Keeps (get : Call σ σ) := by
  intro s s' r run
  subst run
  simp [eq_comm]

theorem keeps_orPanic (message : String) (o : Option α) : Keeps (orPanic message o : Call σ α) := by
  intro s s' r run
  subst run
  cases o <;> simp [eq_comm]

theorem keeps_deref (o : Option α) : Keeps (deref o : Call σ α) := keeps_orPanic _ o

theorem keeps_failIf (c : Prop) [Decidable c] (message : String) :
    Keeps (failIf c message : Call σ Unit) := by
  intro s s' r run
  subst run
  by_cases holds : c <;> simp [holds, eq_comm]

theorem keeps_fail (message : String) : Keeps (fail message : Call σ α) := by
  intro s s' r run
  subst run
  simp [eq_comm]

theorem keeps_panic (message : String) : Keeps (Call.panic message : Call σ α) := by
  intro s s' r run
  subst run
  simp

theorem keeps_ite {x y : Call σ α} (c : Prop) [Decidable c] (keepsX : Keeps x) (keepsY : Keeps y) :
    Keeps (if c then x else y) := by
  by_cases holds : c
  · simpa [holds] using keepsX
  · simpa [holds] using keepsY

theorem Keeps.bind {x : Call σ α} {f : α → Call σ β} (first : Keeps x) (rest : ∀ a, Keeps (f a)) :
    Keeps (x >>= f) := by
  intro s s' r run
  subst run
  constructor
  · intro b run
    obtain ⟨a, t, runX, runF⟩ := bind_eq_ok.mp run
    rw [(rest a).ok runF, first.ok runX]
  · intro e run
    rcases bind_eq_error.mp run with runX | ⟨a, t, runX, runF⟩
    · exact first.error runX
    · rw [(rest a).error runF, first.ok runX]

/-- `x` never returns an error: it returns a value or panics. -/
def NoError (x : Call σ α) : Prop := ∀ s e s', x s ≠ .error e s'

theorem noError_pure (a : α) : NoError (pure a : Call σ α) := by
  intro s e s' run
  cases run

theorem noError_orPanic (message : String) (o : Option α) : NoError (orPanic message o : Call σ α) := by
  intro s e s' run
  cases o <;> cases run

theorem noError_deref (o : Option α) : NoError (deref o : Call σ α) := noError_orPanic _ o

theorem noError_ite {x y : Call σ α} (c : Prop) [Decidable c] (noErrorX : NoError x)
    (noErrorY : NoError y) : NoError (if c then x else y) := by
  by_cases holds : c
  · simpa [holds] using noErrorX
  · simpa [holds] using noErrorY

theorem NoError.bind {x : Call σ α} {f : α → Call σ β} (first : NoError x)
    (rest : ∀ a, NoError (f a)) : NoError (x >>= f) := by
  intro s e s' run
  rcases bind_eq_error.mp run with runX | ⟨a, t, _, runF⟩
  · exact first s e s' runX
  · exact rest a t e s' runF

end Call

/-- The call returns, with a value or an error, and does not panic. -/
def Result.Returned {σ α : Type} : Result σ α → Prop
  | .panic _ => False
  | _ => True

instance {σ α : Type} : (r : Result σ α) → Decidable r.Returned
  | .ok _ _ => isTrue trivial
  | .error _ _ => isTrue trivial
  | .panic _ => isFalse id

/-- The value a successful call returns. -/
def Result.value? {σ α : Type} : Result σ α → Option α
  | .ok a _ => some a
  | _ => none

/-- The error a call returned. -/
def Result.error? {σ α : Type} : Result σ α → Option String
  | .error e _ => some e
  | _ => none

/-- The message a call panicked with. -/
def Result.panic? {σ α : Type} : Result σ α → Option String
  | .panic m => some m
  | _ => none

/-- The state a returning call leaves behind. -/
def Result.state? {σ α : Type} : Result σ α → Option σ
  | .ok _ s => some s
  | .error _ s => some s
  | .panic _ => none

theorem Call.state?_bind_of_returns {σ α β : Type} {x : Call σ α} {f : α → Call σ β}
    (rest : ∀ a s, (f a s).state? = some s) (s : σ) : ((x >>= f) s).state? = (x s).state? := by
  rw [Call.bind_apply]
  cases x s with
  | ok a s' => exact rest a s'
  | error e s' => rfl
  | panic m => rfl

theorem Call.state?_bind_pure {σ α β : Type} (x : Call σ α) (f : α → β) (s : σ) :
    ((x >>= fun a => pure (f a)) s).state? = (x s).state? :=
  Call.state?_bind_of_returns (fun _ _ => rfl) s

/-! ## What holds at every end of a call

`Result.OkOrPanic Q`: the call returned a value satisfying `Q`, or panicked,
but returned no error.  `Call.Preserves view x`: every state `x` ends in, with
a value or an error, agrees with its start on `view`.  `Call.Invariant I x`:
every state `x` ends in from one satisfying `I` satisfies `I`.  All three
follow a call along `>>=`, so that a chain of calls is settled one call at a
time. -/

/-- The call returned a value that satisfies `Q` with the state it left, or it
panicked; it did not return an error. -/
def Result.OkOrPanic {σ α : Type} (Q : α → σ → Prop) : Result σ α → Prop
  | .ok a s => Q a s
  | .error _ _ => False
  | .panic _ => True

namespace Call

variable {σ α β γ : Type}

@[simp] theorem okOrPanic_ok {Q : α → σ → Prop} (a : α) (s : σ) : (Result.ok a s).OkOrPanic Q ↔ Q a s :=
  Iff.rfl

@[simp] theorem okOrPanic_error {Q : α → σ → Prop} (e : String) (s : σ) :
    (Result.error e s : Result σ α).OkOrPanic Q ↔ False :=
  Iff.rfl

@[simp] theorem okOrPanic_panic {Q : α → σ → Prop} (m : String) : (Result.panic m : Result σ α).OkOrPanic Q :=
  trivial

theorem okOrPanic_of {x : Call σ α} {s : σ} {Q : α → σ → Prop} (noError : ∀ e s', x s ≠ .error e s')
    (ok : ∀ a s', x s = .ok a s' → Q a s') : (x s).OkOrPanic Q := by
  cases run : x s with
  | ok a s' => exact ok a s' run
  | error e s' => exact noError e s' run
  | panic m => trivial

theorem OkOrPanic.bind {x : Call σ α} {f : α → Call σ β} {s : σ} {Q : α → σ → Prop} {R : β → σ → Prop}
    (first : (x s).OkOrPanic Q) (rest : ∀ a s', Q a s' → (f a s').OkOrPanic R) :
    ((x >>= f) s).OkOrPanic R := by
  rw [bind_apply]
  cases run : x s with
  | ok a s' =>
    rw [run] at first
    exact rest a s' first
  | error e s' =>
    rw [run] at first
    exact first.elim
  | panic m => trivial

theorem OkOrPanic.of_ok {r : Result σ α} {Q : α → σ → Prop} (holds : r.OkOrPanic Q) {a : α} {s : σ}
    (run : r = .ok a s) : Q a s := by
  subst run
  exact holds

theorem OkOrPanic.mono {r : Result σ α} {Q R : α → σ → Prop} (holds : r.OkOrPanic Q)
    (weaker : ∀ a s, Q a s → R a s) : r.OkOrPanic R := by
  cases r with
  | ok a s => exact weaker a s holds
  | error e s => exact holds.elim
  | panic m => trivial

theorem okOrPanic_focus {τ : Type} {view : σ → τ} {update : τ → σ → σ} {x : Call τ α} {s : σ}
    {Q : α → σ → Prop} (holds : (x (view s)).OkOrPanic fun a t => Q a (update t s)) :
    (focus view update x s).OkOrPanic Q := by
  rw [focus_apply]
  cases run : x (view s) with
  | ok a t =>
    rw [run] at holds
    exact holds
  | error e t =>
    rw [run] at holds
    exact holds.elim
  | panic m => trivial

/-- Every state `x` ends in, returning a value or an error, agrees with the
state it started from on `view`. -/
def Preserves (view : σ → β) (x : Call σ α) : Prop :=
  ∀ s s', (x s).state? = some s' → view s' = view s

theorem Keeps.preserves {x : Call σ α} (keeps : Keeps x) (view : σ → β) : Preserves view x := by
  intro s s' ended
  cases run : x s with
  | ok a t =>
    rw [run] at ended
    cases ended
    rw [keeps.ok run]
  | error e t =>
    rw [run] at ended
    cases ended
    rw [keeps.error run]
  | panic m =>
    rw [run] at ended
    cases ended

theorem Preserves.bind {view : σ → γ} {x : Call σ α} {f : α → Call σ β} (first : Preserves view x)
    (rest : ∀ a, Preserves view (f a)) : Preserves view (x >>= f) := by
  intro s s'' ended
  rw [bind_apply] at ended
  cases run : x s with
  | ok a s' =>
    rw [run] at ended
    exact (rest a s' s'' ended).trans (first s s' (by rw [run]; rfl))
  | error e s' =>
    rw [run] at ended
    exact first s s'' (by rw [run]; exact ended)
  | panic m =>
    rw [run] at ended
    cases ended

theorem preserves_ite {view : σ → β} {x y : Call σ α} (c : Prop) [Decidable c] (yes : Preserves view x)
    (no : Preserves view y) : Preserves view (if c then x else y) := by
  by_cases holds : c
  · simpa [holds] using yes
  · simpa [holds] using no

theorem preserves_focus {τ : Type} {view : σ → β} (get : σ → τ) (update : τ → σ → σ) (x : Call τ α)
    (unchanged : ∀ t s, view (update t s) = view s) : Preserves view (focus get update x) := by
  intro s s' ended
  rw [focus_apply] at ended
  cases run : x (get s) with
  | ok a t =>
    rw [run] at ended
    cases ended
    exact unchanged t s
  | error e t =>
    rw [run] at ended
    cases ended
    exact unchanged t s
  | panic m =>
    rw [run] at ended
    cases ended

/-- Every state `x` ends in from a state satisfying `I`, returning a value or
an error, satisfies `I`. -/
def Invariant (I : σ → Prop) (x : Call σ α) : Prop :=
  ∀ s s', I s → (x s).state? = some s' → I s'

theorem Preserves.invariant {view : σ → β} {x : Call σ α} (preserves : Preserves view x) (I : β → Prop) :
    Invariant (fun s => I (view s)) x := by
  intro s s' holds ended
  show I (view s')
  rw [preserves s s' ended]
  exact holds

/-- A call that returns no error keeps `I` when every value it returns leaves
`I`. -/
theorem invariant_of_okOrPanic {I : σ → Prop} {x : Call σ α}
    (holds : ∀ s, I s → (x s).OkOrPanic fun _ => I) : Invariant I x := by
  intro s s' start ended
  have ends := holds s start
  cases run : x s with
  | ok a t =>
    rw [run] at ends ended
    cases ended
    exact ends
  | error e t =>
    rw [run] at ends
    exact ends.elim
  | panic m =>
    rw [run] at ended
    cases ended

theorem Invariant.bind {I : σ → Prop} {x : Call σ α} {f : α → Call σ β} (first : Invariant I x)
    (rest : ∀ a, Invariant I (f a)) : Invariant I (x >>= f) := by
  intro s s'' start ended
  rw [bind_apply] at ended
  cases run : x s with
  | ok a s' =>
    rw [run] at ended
    exact rest a s' s'' (first s s' start (by rw [run]; rfl)) ended
  | error e s' =>
    rw [run] at ended
    exact first s s'' start (by rw [run]; exact ended)
  | panic m =>
    rw [run] at ended
    cases ended

theorem invariant_ite {I : σ → Prop} {x y : Call σ α} (c : Prop) [Decidable c] (yes : Invariant I x)
    (no : Invariant I y) : Invariant I (if c then x else y) := by
  by_cases holds : c
  · simpa [holds] using yes
  · simpa [holds] using no

end Call

/-! ## Slices

Go bounds-checks every index and every slice expression at run time.  A slice
`xs` of bytes here is a list that is its own backing array (`len = cap`), which
is how every slice built by `make([]byte, n)` starts out. -/

/-- `xs[i]`, panicking unless `0 ≤ i < len(xs)`. -/
def index {σ α : Type} (xs : List α) (i : Int) : Call σ α :=
  if h : 0 ≤ i ∧ i.toNat < xs.length then Call.pure (xs.get ⟨i.toNat, h.2⟩)
  else Call.panic "runtime error: index out of range"

/-- `xs[i] = a`, panicking unless `0 ≤ i < len(xs)`. -/
def setIndex {σ α : Type} (xs : List α) (i : Int) (a : α) : Call σ (List α) :=
  if 0 ≤ i ∧ i.toNat < xs.length then Call.pure (xs.set i.toNat a)
  else Call.panic "runtime error: index out of range"

/-- `xs[:hi]` for a slice with `len = cap`, panicking unless `0 ≤ hi ≤ cap(xs)`. -/
def sliceTo {σ α : Type} (xs : List α) (hi : Int) : Call σ (List α) :=
  if 0 ≤ hi ∧ hi.toNat ≤ xs.length then Call.pure (xs.take hi.toNat)
  else Call.panic "runtime error: slice bounds out of range"

theorem index_apply_of_lt {σ α : Type} (xs : List α) (i : Nat) (h : i < xs.length) (s : σ) :
    (index xs (i : Int) : Call σ α) s = .ok (xs.get ⟨i, h⟩) s := by
  have inside : 0 ≤ (i : Int) ∧ (i : Int).toNat < xs.length := by omega
  rw [index, dif_pos inside]
  rfl

theorem setIndex_apply_of_lt {σ α : Type} (xs : List α) (i : Nat) (h : i < xs.length) (a : α) (s : σ) :
    (setIndex xs (i : Int) a : Call σ (List α)) s = .ok (xs.set i a) s := by
  have inside : 0 ≤ (i : Int) ∧ (i : Int).toNat < xs.length := by omega
  rw [setIndex, if_pos inside]
  rfl

/-! ## Slices with a capacity

A slice value shows `len` elements of a backing array that continues up to
`cap`.  `Slice.spare` is that continuation: the bytes a re-slice `s[:n]` with
`len(s) < n ≤ cap(s)` brings into view.  Aliasing between two slices of one
array is not modeled; every slice here owns its backing array. -/

/-- A slice: the elements in view, then the rest of the backing array. -/
structure Slice (α : Type) where
  data : List α
  spare : List α
deriving DecidableEq, Repr

namespace Slice

variable {α : Type}

/-- `nil`, and every slice of length and capacity zero. -/
def empty : Slice α := ⟨[], []⟩

/-- A slice that owns exactly its elements (`len = cap`). -/
def ofList (xs : List α) : Slice α := ⟨xs, []⟩

def len (s : Slice α) : Nat := s.data.length

def cap (s : Slice α) : Nat := s.data.length + s.spare.length

/-- `make([]T, n, c)` with zero value `z`; Go panics when `n > c`. -/
def make {σ : Type} (z : α) (n c : Nat) : Call σ (Slice α) :=
  if n ≤ c then Call.pure ⟨List.replicate n z, List.replicate (c - n) z⟩
  else Call.panic "runtime error: makeslice: cap out of range"

/-- `s[:hi]`, panicking unless `0 ≤ hi ≤ cap(s)`. -/
def sliceTo {σ : Type} (s : Slice α) (hi : Int) : Call σ (Slice α) :=
  if 0 ≤ hi ∧ hi.toNat ≤ s.cap then
    Call.pure ⟨(s.data ++ s.spare).take hi.toNat, (s.data ++ s.spare).drop hi.toNat⟩
  else Call.panic "runtime error: slice bounds out of range"

@[simp] theorem len_ofList (xs : List α) : (ofList xs).len = xs.length := rfl

@[simp] theorem cap_ofList (xs : List α) : (ofList xs).cap = xs.length := by
  simp [ofList, cap]

@[simp] theorem len_empty : (empty : Slice α).len = 0 := rfl

theorem sliceTo_apply_of_le {σ : Type} (s : Slice α) (hi : Nat) (h : hi ≤ s.cap) (st : σ) :
    (s.sliceTo (hi : Int) : Call σ (Slice α)) st =
      .ok ⟨(s.data ++ s.spare).take hi, (s.data ++ s.spare).drop hi⟩ st := by
  have inside : 0 ≤ (hi : Int) ∧ (hi : Int).toNat ≤ s.cap := by omega
  rw [sliceTo, if_pos inside]
  rfl

end Slice

/-! ## Serializers

Every `Append(b []byte, ...) ([]byte, error)` method of a wire format appends
to the slice it is given and touches nothing else.  `Call.Writes w n` says that
of a serializer `w`: whenever it returns, the receiver is as it was and exactly
`n` elements follow the input.  The lemmas below build that fact for a
serializer from its parts, in the order the Go code writes them. -/

namespace Call

variable {σ α β : Type}

/-- `w` appends exactly `n` elements whenever it returns. -/
def Writes (w : List α → Call σ (List α)) (n : Nat) : Prop :=
  ∀ b s out s', w b s = .ok out s' → s' = s ∧ ∃ written, out = b ++ written ∧ written.length = n

/-- Run `w x` for every `x` of the list in turn: `for _, x := range xs { b, err = x.Append(b) }`. -/
def appendEach (w : β → List α → Call σ (List α)) : List β → List α → Call σ (List α)
  | [], b => pure b
  | x :: xs, b => w x b >>= appendEach w xs

/-- `if c { b = w(b) }`. -/
def appendWhen (c : Prop) [Decidable c] (w : List α → Call σ (List α)) (b : List α) :
    Call σ (List α) :=
  if c then w b else pure b

theorem writes_append (xs : List α) : Writes (σ := σ) (fun b => pure (b ++ xs)) xs.length := by
  intro b s out s' run
  simp only [pure_apply, Result.ok.injEq] at run
  obtain ⟨rfl, rfl⟩ := run
  exact ⟨rfl, xs, rfl, rfl⟩

theorem writes_pure : Writes (σ := σ) (fun b : List α => pure b) 0 := by
  simpa using writes_append (σ := σ) ([] : List α)

theorem Writes.congr {w : List α → Call σ (List α)} {n m : Nat} (writes : Writes w n)
    (same : n = m) : Writes w m := same ▸ writes

theorem Writes.bind {w₁ w₂ : List α → Call σ (List α)} {n₁ n₂ : Nat}
    (first : Writes w₁ n₁) (second : Writes w₂ n₂) :
    Writes (fun b => w₁ b >>= w₂) (n₁ + n₂) := by
  intro b s out s' run
  obtain ⟨mid, t, run₁, run₂⟩ := bind_eq_ok.mp run
  obtain ⟨rfl, written₁, rfl, length₁⟩ := first b s mid t run₁
  obtain ⟨rfl, written₂, rfl, length₂⟩ := second _ _ out s' run₂
  exact ⟨rfl, written₁ ++ written₂, by simp, by simp [length₁, length₂]⟩

theorem Writes.peel {w : List α → Call σ (List α)} {n : Nat} {k : List α → Call σ β}
    {b : List α} {s s' : σ} {r : β} (writes : Writes w n) (run : (w b >>= k) s = .ok r s') :
    ∃ written, written.length = n ∧ k (b ++ written) s = .ok r s' := by
  obtain ⟨mid, t, first, rest⟩ := bind_eq_ok.mp run
  obtain ⟨rfl, written, rfl, length⟩ := writes b s mid t first
  exact ⟨written, length, rest⟩

theorem Writes.after {w : List α → Call σ (List α)} {n : Nat} (writes : Writes w n)
    (xs : List α) : Writes (fun b => w (b ++ xs)) (xs.length + n) := by
  intro b s out s' run
  obtain ⟨rfl, written, rfl, length⟩ := writes _ s out s' run
  exact ⟨rfl, xs ++ written, by simp, by simp [length]⟩

theorem Writes.ite {w₁ w₂ : List α → Call σ (List α)} {n₁ n₂ : Nat} (c : Prop) [Decidable c]
    (yes : Writes w₁ n₁) (no : Writes w₂ n₂) :
    Writes (fun b => if c then w₁ b else w₂ b) (if c then n₁ else n₂) := by
  by_cases holds : c
  · simpa [holds] using yes
  · simpa [holds] using no

theorem Writes.when {w : List α → Call σ (List α)} {n : Nat} (c : Prop) [Decidable c]
    (writes : Writes w n) : Writes (appendWhen c w) (if c then n else 0) :=
  Writes.ite c writes writes_pure

theorem writes_appendEach {w : β → List α → Call σ (List α)} (size : β → Nat) :
    ∀ xs : List β, (∀ x ∈ xs, Writes (w x) (size x)) →
      Writes (appendEach w xs) (xs.map size).sum
  | [], _ => writes_pure
  | x :: xs, each => by
      have rest := writes_appendEach size xs (fun y member => each y (List.mem_cons_of_mem x member))
      simpa [appendEach] using (each x (List.mem_cons_self ..)).bind rest

theorem keeps_appendEach {w : β → List α → Call σ (List α)} (each : ∀ x b, Keeps (w x b)) :
    ∀ (xs : List β) (b : List α), Keeps (appendEach w xs b)
  | [], b => keeps_pure b
  | x :: xs, b => (each x b).bind fun b' => keeps_appendEach each xs b'

theorem keeps_appendWhen {w : List α → Call σ (List α)} (c : Prop) [Decidable c] (keeps : ∀ b, Keeps (w b))
    (b : List α) : Keeps (appendWhen c w b) :=
  keeps_ite c (keeps b) (keeps_pure b)

end Call

/-! ## Maps

A Go map is an `AList`; `len(m)` is the length of its entries. -/

namespace Map

variable {κ ν : Type}

theorem length_entries (m : AList fun _ : κ => ν) : m.entries.length = m.keys.length := by
  simp [AList.keys, List.keys]

variable [DecidableEq κ]

theorem length_insert_of_notMem {m : AList fun _ : κ => ν} {k : κ} (absent : k ∉ m) (v : ν) :
    (m.insert k v).entries.length = m.entries.length + 1 := by
  rw [AList.entries_insert_of_notMem absent, List.length_cons]

theorem length_insert_of_mem {m : AList fun _ : κ => ν} {k : κ} (present : k ∈ m) (v : ν) :
    (m.insert k v).entries.length = m.entries.length := by
  have inKeys := AList.mem_keys.mp present
  have atLeastOne := List.length_pos_of_mem inKeys
  rw [length_entries, length_entries, AList.keys_insert, List.length_cons,
    List.length_erase_of_mem inKeys]
  omega

theorem length_erase_of_mem {m : AList fun _ : κ => ν} {k : κ} (present : k ∈ m) :
    (m.erase k).entries.length + 1 = m.entries.length := by
  have inKeys := AList.mem_keys.mp present
  have atLeastOne := List.length_pos_of_mem inKeys
  rw [length_entries, length_entries, AList.keys_erase, List.length_erase_of_mem inKeys]
  omega

theorem mem_of_lookup {m : AList fun _ : κ => ν} {k : κ} {v : ν} (found : m.lookup k = some v) : k ∈ m :=
  AList.lookup_isSome.mp (by rw [found]; rfl)

omit [DecidableEq κ] in
theorem entries_eq_nil_iff {m : AList fun _ : κ => ν} : m.entries = [] ↔ ∀ k, k ∉ m := by
  constructor
  · intro empty k member
    rw [AList.mem_keys, AList.keys, empty] at member
    cases member
  · intro none
    cases entries : m.entries with
    | nil => rfl
    | cons e rest =>
      have member : e.1 ∈ m := by
        rw [AList.mem_keys, AList.keys, entries]
        exact List.mem_cons_self
      exact absurd member (none e.1)

theorem mem_insert_of_lookup {m : AList fun _ : κ => ν} {k : κ} {v : ν} (v' : ν) (found : m.lookup k = some v)
    (k' : κ) : k' ∈ m.insert k v' ↔ k' ∈ m := by
  rw [AList.mem_insert]
  constructor
  · rintro (rfl | old)
    · exact mem_of_lookup found
    · exact old
  · exact .inr

theorem lookup_of_lookup_erase {m : AList fun _ : κ => ν} {k k' : κ} {v : ν} (found : (m.erase k).lookup k' = some v) :
    k' ≠ k ∧ m.lookup k' = some v := by
  by_cases here : k' = k
  · rw [here, AList.lookup_erase] at found
    cases found
  · rw [AList.lookup_erase_ne here] at found
    exact ⟨here, found⟩

end Map

/-! ## Loops over a list -/

namespace Call

variable {σ β : Type}

/-- `for _, x := range xs { if err := f(x); err != nil { return err } }`. -/
def forEach (f : β → Call σ Unit) : List β → Call σ Unit
  | [] => pure ()
  | x :: xs => f x >>= fun _ => forEach f xs

theorem forEach_ok_of_invariant {f : β → Call σ Unit} (Inv : List β → σ → Prop) :
    ∀ (xs : List β) {s : σ}, Inv [] s →
      (∀ (i : Nat) (inside : i < xs.length) (t : σ), Inv (xs.take i) t →
        ∃ t', f xs[i] t = .ok () t' ∧ Inv (xs.take (i + 1)) t') →
      ∃ s', forEach f xs s = .ok () s' ∧ Inv xs s'
  | [], s, start, _ => ⟨s, rfl, start⟩
  | x :: xs, s, start, step => by
      obtain ⟨t, (first : f x s = .ok () t), kept⟩ := step 0 (by simp) s start
      -- the rest of the loop runs with the invariant shifted past `x`
      obtain ⟨s', rest, final⟩ := forEach_ok_of_invariant (fun done => Inv (x :: done)) xs kept
        (fun i inside t kept => step (i + 1) (by simp [inside]) t kept)
      exact ⟨s', by simp only [forEach, bind_apply, first, rest], final⟩

/-! ### Calls that may return an error -/

/-- `Spec P x Q`: from a state satisfying `P`, `x` does not panic, and when it
returns without an error its value and the state it leaves satisfy `Q`.  An
error ends the caller's run, so nothing is asked of the state it leaves. -/
def Spec {α : Type} (P : σ → Prop) (x : Call σ α) (Q : α → σ → Prop) : Prop :=
  ∀ s, P s → (x s).Returned ∧ ∀ a s', x s = .ok a s' → Q a s'

theorem forEach_spec {f : β → Call σ Unit} (Inv : List β → σ → Prop) :
    ∀ xs : List β,
      (∀ (i : Nat) (inside : i < xs.length),
        Spec (Inv (xs.take i)) (f xs[i]) fun _ => Inv (xs.take (i + 1))) →
      Spec (Inv []) (forEach f xs) fun _ => Inv xs
  | [], _ => fun s start => ⟨trivial, fun _ s' done => by cases done; exact start⟩
  | x :: xs, step => by
      intro s start
      obtain ⟨returns, kept⟩ : (f x s).Returned ∧ ∀ u t, f x s = .ok u t → Inv [x] t :=
        step 0 (by simp) s start
      -- the rest of the loop runs with the invariant shifted past `x`
      have rest := forEach_spec (fun done => Inv (x :: done)) xs
        (fun i inside => step (i + 1) (by simp [inside]))
      simp only [forEach, bind_apply]
      cases first : f x s with
      | ok u t =>
          exact rest t (kept u t first)
      | error e t => exact ⟨trivial, fun _ _ done => by cases done⟩
      | panic m =>
          rw [first] at returns
          exact returns.elim

theorem Spec.bind {α : Type} {P : σ → Prop} {x : Call σ α} {Q : α → σ → Prop} {f : α → Call σ β}
    {R : β → σ → Prop} (first : Spec P x Q) (rest : ∀ a, Spec (Q a) (f a) R) : Spec P (x >>= f) R := by
  intro s start
  obtain ⟨returns, kept⟩ := first s start
  simp only [bind_apply]
  cases run : x s with
  | ok a s' => exact rest a s' (kept a s' run)
  | error e s' => exact ⟨trivial, fun _ _ done => by cases done⟩
  | panic m =>
      rw [run] at returns
      exact returns.elim

theorem Spec.ite {α : Type} {P : σ → Prop} {c : σ → Prop} [∀ s, Decidable (c s)] {x y : Call σ α}
    {Q : α → σ → Prop} (yes : Spec (fun s => P s ∧ c s) x Q) (no : Spec (fun s => P s ∧ ¬ c s) y Q) :
    Spec P (fun s => if c s then x s else y s) Q := by
  intro s start
  by_cases holds : c s
  · simpa only [if_pos holds] using yes s ⟨start, holds⟩
  · simpa only [if_neg holds] using no s ⟨start, holds⟩

theorem spec_ok {α : Type} {P : σ → Prop} {Q : α → σ → Prop} (v : σ → α) (post : ∀ s, P s → Q (v s) s) :
    Spec P (fun s => .ok (v s) s) Q := fun s start =>
  ⟨trivial, fun _ _ done => by cases done; exact post s start⟩

theorem spec_pure {α : Type} {P : σ → Prop} {Q : α → σ → Prop} (a : α) (post : ∀ s, P s → Q a s) :
    Spec P (pure a) Q := fun s start =>
  ⟨trivial, fun _ _ done => by cases done; exact post s start⟩

theorem spec_modify {P : σ → Prop} {Q : Unit → σ → Prop} (g : σ → σ) (post : ∀ s, P s → Q () (g s)) :
    Spec P (modify g) Q := fun s start =>
  ⟨trivial, fun _ _ done => by cases done; exact post s start⟩

theorem spec_error {α : Type} {P : σ → Prop} {Q : α → σ → Prop} (e : String) :
    Spec P (fun s => .error e s) Q := fun _ _ => ⟨trivial, fun _ _ done => by cases done⟩

theorem Spec.weaken {α : Type} {P : σ → Prop} {x : Call σ α} {Q Q' : α → σ → Prop} (spec : Spec P x Q)
    (imp : ∀ a s, Q a s → Q' a s) : Spec P x Q' := fun s start =>
  ⟨(spec s start).1, fun a s' run => imp a s' ((spec s start).2 a s' run)⟩

theorem getElem_not_mem_take {xs : List β} (nodup : xs.Nodup) {i : Nat} (inside : i < xs.length) :
    xs[i] ∉ xs.take i := by
  intro member
  obtain ⟨m, mInside, same⟩ := List.getElem_of_mem member
  rw [List.getElem_take] at same
  have := (List.getElem_inj nodup).mp same
  rw [List.length_take] at mInside
  omega

end Call

/-! ## Fixed-width integers -/

/-- Go's `int64` arithmetic wraps around: the value in `[-2^63, 2^63)` that
`x` is congruent to modulo `2^64`. -/
def int64 (x : Int) : Int := (x + 2 ^ 63) % 2 ^ 64 - 2 ^ 63

/-- A value an `int64` holds. -/
def IsInt64 (x : Int) : Prop := -2 ^ 63 ≤ x ∧ x < 2 ^ 63

theorem int64_of_isInt64 {x : Int} (fits : IsInt64 x) : int64 x = x := by
  unfold IsInt64 at fits
  unfold int64
  omega

theorem int64_emod (x : Int) : int64 x % 2 ^ 64 = x % 2 ^ 64 := by
  unfold int64
  omega

theorem int64_eq_of_emod_eq {x y : Int} (same : x % 2 ^ 64 = y % 2 ^ 64) : int64 x = int64 y := by
  unfold int64
  omega

theorem int64_add_int64 (a b : Int) : int64 (a + int64 b) = int64 (a + b) := by
  unfold int64
  omega

theorem int64_mul_int64 (a b : Int) : int64 (a * int64 b) = int64 (a * b) := by
  apply int64_eq_of_emod_eq
  rw [Int.mul_emod, int64_emod, ← Int.mul_emod]

/-! ## Formatting -/

/-- `fmt.Sprintf(format, args...)` for a format whose verbs are `%d`: each
`%d` prints the next argument in decimal, and one with no argument left prints
`%!d(MISSING)`. -/
def sprintf : List Char → List Int → String
  | '%' :: 'd' :: rest, arg :: args => toString arg ++ sprintf rest args
  | '%' :: 'd' :: rest, [] => "%!d(MISSING)" ++ sprintf rest []
  | c :: rest, args => c.toString ++ sprintf rest args
  | [], _ => ""

example : sprintf "stream %d (limit: %d)".toList [-3, 10] = "stream -3 (limit: 10)" := by decide

end Go
