import QuicFec.Lib.Go

/-! # QUIC variable-length integers

`quicvarint.Len`, `Append` and `Read` of `quicvarint/varint.go`.  A
`bytes.Reader` is the list of its unread bytes; `ReadByte` on an empty reader
returns `io.EOF`, which `Read` passes on. -/
set_option autoImplicit false

namespace QuicFec.Quicvarint

open Go

def maxVarInt1 : Nat := 63
def maxVarInt2 : Nat := 16383
def maxVarInt4 : Nat := 1073741823
/-- `maxVarInt8` (`quicvarint.Max`). -/
def maxVarInt8 : Nat := 4611686018427387903

/-- The number of bytes `quicvarint.Len` returns for a value it encodes, one
of at most `maxVarInt8`.  The frames' `Length` methods are modelled with it. -/
def size (i : Nat) : Nat :=
  if i ≤ maxVarInt1 then 1
  else if i ≤ maxVarInt2 then 2
  else if i ≤ maxVarInt4 then 4
  else 8

def len {σ : Type} (i : Nat) : Call σ Nat :=
  if i ≤ maxVarInt1 then pure 1
  else if i ≤ maxVarInt2 then pure 2
  else if i ≤ maxVarInt4 then pure 4
  else if i ≤ maxVarInt8 then pure 8
  else Call.panic s!"value doesn't fit into 62 bits: {i}"

theorem len_of_le {σ : Type} {i : Nat} (fits : i ≤ maxVarInt8) (s : σ) :
    (len i : Call σ Nat) s = .ok (size i) s := by
  unfold len size
  split_ifs <;> rfl

theorem len_of_lt {σ : Type} {i : Nat} (tooBig : maxVarInt8 < i) (s : σ) :
    (len i : Call σ Nat) s = .panic s!"value doesn't fit into 62 bits: {i}" := by
  unfold len maxVarInt1 maxVarInt2 maxVarInt4 maxVarInt8 at *
  split_ifs <;> first | rfl | omega

theorem size_pos (i : Nat) : 0 < size i := by
  unfold size
  split_ifs <;> omega

theorem size_le_eight (i : Nat) : size i ≤ 8 := by
  unfold size
  split_ifs <;> omega

theorem size_mono {i j : Nat} (le : i ≤ j) : size i ≤ size j := by
  unfold size maxVarInt1 maxVarInt2 maxVarInt4
  split_ifs <;> omega

theorem size_eq_one_iff (i : Nat) : size i = 1 ↔ i ≤ maxVarInt1 := by
  unfold size maxVarInt1 maxVarInt2 maxVarInt4
  split_ifs <;> omega

theorem le_maxVarInt8_of_lt {i : Nat} (fits : i < 2 ^ 62) : i ≤ maxVarInt8 := by
  unfold maxVarInt8
  omega

/-- The bytes of `i` in big-endian order, `n` of them. -/
def bigEndian (i : Nat) : Nat → List UInt8
  | 0 => []
  | n + 1 => UInt8.ofNat (i / 256 ^ n) :: bigEndian i n

/-- `quicvarint.Append(b, i)`: the two top bits of the first byte give the
length.  It panics for values above `maxVarInt8`. -/
def append {σ : Type} (b : List UInt8) (i : Nat) : Call σ (List UInt8) :=
  if i ≤ maxVarInt1 then Call.pure (b ++ [UInt8.ofNat i])
  else if i ≤ maxVarInt2 then
    Call.pure (b ++ [UInt8.ofNat (i / 256) ||| 0x40, UInt8.ofNat i])
  else if i ≤ maxVarInt4 then
    Call.pure (b ++ [UInt8.ofNat (i / 256 ^ 3) ||| 0x80] ++ bigEndian i 3)
  else if i ≤ maxVarInt8 then
    Call.pure (b ++ [UInt8.ofNat (i / 256 ^ 7) ||| 0xc0] ++ bigEndian i 7)
  else Call.panic "doesn't fit into 62 bits"

/-- `quicvarint.AppendWithLen(b, i, length)`: `i` in exactly `length` bytes,
zero-padded after the length prefix when it is shorter. -/
def appendWithLen {σ : Type} (b : List UInt8) (i length : Nat) : Call σ (List UInt8) :=
  if length ≠ 1 ∧ length ≠ 2 ∧ length ≠ 4 ∧ length ≠ 8 then Call.panic "invalid varint length"
  else do
    let l ← len i
    if l = length then append b i
    else if l > length then Call.panic s!"cannot encode {i} in {length} bytes"
    else
      let prefixByte : List UInt8 :=
        if length = 2 then [0b01000000] else if length = 4 then [0b10000000]
        else if length = 8 then [0b11000000] else []
      Call.pure (b ++ prefixByte ++ List.replicate (length - l - 1) 0 ++ bigEndian i l)

@[simp] theorem length_bigEndian (i n : Nat) : (bigEndian i n).length = n := by
  induction n with
  | zero => rfl
  | succ n ih => simp [bigEndian, ih]

theorem append_keeps {σ : Type} (b : List UInt8) (i : Nat) : Call.Keeps (σ := σ) (append b i) := by
  unfold append
  split_ifs
  all_goals first | exact Call.keeps_pure _ | exact Call.keeps_panic _

theorem append_writes {σ : Type} (i : Nat) :
    Call.Writes (σ := σ) (fun b => append b i) (size i) := by
  intro b s out s' run
  unfold append at run
  unfold size
  -- one branch per encoded length; past `maxVarInt8` the call panics
  by_cases one : i ≤ maxVarInt1
  · simp only [one, if_true] at run ⊢
    exact Call.writes_append _ b s out s' run
  by_cases two : i ≤ maxVarInt2
  · simp only [one, two, if_true, if_false] at run ⊢
    exact Call.writes_append _ b s out s' run
  by_cases four : i ≤ maxVarInt4
  · simp only [one, two, four, if_true, if_false, List.append_assoc] at run ⊢
    exact (Call.writes_append _).congr (by simp) b s out s' run
  by_cases eight : i ≤ maxVarInt8
  · simp only [one, two, four, eight, if_true, if_false, List.append_assoc] at run ⊢
    exact (Call.writes_append _).congr (by simp) b s out s' run
  · simp [one, two, four, eight, Call.panic] at run

theorem appendWithLen_writes {σ : Type} (i length : Nat) :
    Call.Writes (σ := σ) (fun b => appendWithLen b i length) length := by
  intro b s out s' run
  unfold appendWithLen at run
  by_cases invalid : length ≠ 1 ∧ length ≠ 2 ∧ length ≠ 4 ∧ length ≠ 8
  · simp [invalid, Call.panic] at run
  simp only [invalid, if_false] at run
  by_cases fits : i ≤ maxVarInt8
  swap
  · rw [Call.bind_of_panic (len_of_lt (Nat.lt_of_not_le fits) s)] at run
    cases run
  rw [Call.bind_of_ok (len_of_le fits s)] at run
  by_cases same : size i = length
  · simp only [same, if_true] at run
    exact same ▸ append_writes i b s out s' run
  by_cases tooLong : size i > length
  · simp [same, tooLong, Call.panic] at run
  simp only [same, tooLong, if_false, List.append_assoc] at run
  refine (Call.writes_append _).congr ?_ b s out s' run
  have atLeastOne := size_pos i
  split_ifs <;> simp <;> omega

def readByte : Call (List UInt8) UInt8
  | [] => .error "EOF" []
  | b :: rest => .ok b rest

def read : Call (List UInt8) Nat := do
  let firstByte ← readByte
  let len := 1 <<< ((firstByte &&& 0xc0) >>> 6).toNat
  let b1 := (firstByte &&& (0xff - 0xc0)).toNat
  if len = 1 then return b1
  let b2 := (← readByte).toNat
  if len = 2 then return b2 + b1 * 2 ^ 8
  let b3 := (← readByte).toNat
  let b4 := (← readByte).toNat
  if len = 4 then return b4 + b3 * 2 ^ 8 + b2 * 2 ^ 16 + b1 * 2 ^ 24
  let b5 := (← readByte).toNat
  let b6 := (← readByte).toNat
  let b7 := (← readByte).toNat
  let b8 := (← readByte).toNat
  return b8 + b7 * 2 ^ 8 + b6 * 2 ^ 16 + b5 * 2 ^ 24 + b4 * 2 ^ 32 + b3 * 2 ^ 40 +
    b2 * 2 ^ 48 + b1 * 2 ^ 56

/-! ## Reading back what `Append` wrote -/

theorem toNat_or_tag {x : Nat} (small : x < 64) {tag : UInt8} {t : Nat} (isTag : tag.toNat = 64 * t) :
    (UInt8.ofNat x ||| tag).toNat = 64 * t + x := by
  rw [UInt8.toNat_or, UInt8.toNat_ofNat', isTag, Nat.mod_eq_of_lt (by omega), Nat.or_comm]
  exact (Nat.two_pow_add_eq_or_of_lt (show x < 2 ^ 6 from small) t).symm

theorem lengthBits {byte : UInt8} {t x : Nat} (value : byte.toNat = 64 * t + x) (small : x < 64)
    (tag : t < 4) : ((byte &&& 0xc0) >>> 6).toNat = t ∧ (byte &&& (0xff - 0xc0)).toNat = x := by
  constructor
  · show (byte.toNat &&& 192) >>> 6 = t
    rw [value, Nat.shiftRight_and_distrib, show (192 : Nat) >>> 6 = 2 ^ 2 - 1 from rfl,
      Nat.and_two_pow_sub_one_eq_mod, Nat.shiftRight_eq_div_pow]
    omega
  · show byte.toNat &&& (2 ^ 6 - 1) = x
    rw [value, Nat.and_two_pow_sub_one_eq_mod]
    omega

theorem read_one {i : Nat} (fits : i ≤ maxVarInt1) (rest : List UInt8) :
    read (UInt8.ofNat i :: rest) = .ok i rest := by
  unfold maxVarInt1 at fits
  have first : (UInt8.ofNat i).toNat = 64 * 0 + i := by
    rw [UInt8.toNat_ofNat']
    omega
  obtain ⟨tag, top⟩ := lengthBits first (by omega) (by omega)
  simp only [read, Call.bind_apply, readByte, tag, top]
  rfl

theorem read_two {i : Nat} (fits : i ≤ maxVarInt2) (rest : List UInt8) :
    read ((UInt8.ofNat (i / 256) ||| 0x40) :: UInt8.ofNat i :: rest) = .ok i rest := by
  unfold maxVarInt2 at fits
  have first := toNat_or_tag (show i / 256 < 64 by omega) (show (0x40 : UInt8).toNat = 64 * 1 from rfl)
  obtain ⟨tag, top⟩ := lengthBits first (by omega) (by omega)
  simp only [read, Call.bind_apply, readByte, tag, top]
  simp only [Nat.reduceShiftLeft, Nat.reduceEqDiff, ↓reduceIte, Call.bind_apply, readByte,
    Call.pure_apply, UInt8.toNat_ofNat']
  rw [show i % 2 ^ 8 + i / 256 * 2 ^ 8 = i by omega]

theorem read_four {i : Nat} (fits : i ≤ maxVarInt4) (rest : List UInt8) :
    read (((UInt8.ofNat (i / 256 ^ 3) ||| 0x80) :: bigEndian i 3) ++ rest) = .ok i rest := by
  unfold maxVarInt4 at fits
  have first := toNat_or_tag (show i / 256 ^ 3 < 64 by omega) (show (0x80 : UInt8).toNat = 64 * 2 from rfl)
  obtain ⟨tag, top⟩ := lengthBits first (by omega) (by omega)
  simp only [read, Call.bind_apply, readByte, tag, top, bigEndian, List.cons_append, List.nil_append]
  simp only [Nat.reduceShiftLeft, Nat.reduceEqDiff, ↓reduceIte, Call.bind_apply, readByte,
    Call.pure_apply, UInt8.toNat_ofNat', Nat.reducePow]
  congr 1
  omega

theorem read_eight {i : Nat} (fits : i ≤ maxVarInt8) (rest : List UInt8) :
    read (((UInt8.ofNat (i / 256 ^ 7) ||| 0xc0) :: bigEndian i 7) ++ rest) = .ok i rest := by
  unfold maxVarInt8 at fits
  have first := toNat_or_tag (show i / 256 ^ 7 < 64 by omega) (show (0xc0 : UInt8).toNat = 64 * 3 from rfl)
  obtain ⟨tag, top⟩ := lengthBits first (by omega) (by omega)
  simp only [read, Call.bind_apply, readByte, tag, top, bigEndian, List.cons_append, List.nil_append]
  simp only [Nat.reduceShiftLeft, Nat.reduceEqDiff, ↓reduceIte, Call.bind_apply, readByte,
    Call.pure_apply, UInt8.toNat_ofNat', Nat.reducePow]
  congr 1
  omega

theorem append_encodes {i : Nat} (fits : i ≤ maxVarInt8) :
    ∃ enc, (∀ {σ : Type} (b : List UInt8) (s : σ), append b i s = .ok (b ++ enc) s) ∧
      ∀ rest, read (enc ++ rest) = .ok i rest := by
  unfold append
  by_cases one : i ≤ maxVarInt1
  · exact ⟨[UInt8.ofNat i], fun b s => by simp [Call.pure, one], read_one one⟩
  by_cases two : i ≤ maxVarInt2
  · exact ⟨[_, _], fun b s => by simp [Call.pure, one, two], read_two two⟩
  by_cases four : i ≤ maxVarInt4
  · exact ⟨_ :: bigEndian i 3, fun b s => by simp [Call.pure, one, two, four], read_four four⟩
  · exact ⟨_ :: bigEndian i 7, fun b s => by simp [Call.pure, one, two, four, fits], read_eight fits⟩

/-! ## `Read` on any bytes -/

/-- The big-endian value of a list of bytes. -/
def beValue : List UInt8 → Nat
  | [] => 0
  | b :: bs => b.toNat * 256 ^ bs.length + beValue bs

/-- The number of bytes of the encoding a first byte announces: two to the
power of its two top bits. -/
def encodedLen (first : UInt8) : Nat := 1 <<< ((first &&& 0xc0) >>> 6).toNat

/-- The value of an encoding: the first byte's six low bits, then the bytes after it. -/
def encodedValue (first : UInt8) (rest : List UInt8) : Nat :=
  (first &&& (0xff - 0xc0)).toNat * 256 ^ rest.length + beValue rest

theorem beValue_bigEndian (i n : Nat) : beValue (bigEndian i n) = i % 256 ^ n := by
  induction n with
  | zero => simp [bigEndian, beValue, Nat.mod_one]
  | succ n ih =>
    simp only [bigEndian, beValue, length_bigEndian, ih, UInt8.toNat_ofNat', Nat.reducePow]
    rw [Nat.pow_succ, Nat.mod_mul, Nat.add_comm, Nat.mul_comm]

theorem beValue_replicate_zero (k : Nat) (bs : List UInt8) : beValue (List.replicate k 0 ++ bs) = beValue bs := by
  induction k with
  | zero => rfl
  | succ k ih => simp [List.replicate_succ, beValue, ih]

theorem encodedLen_cases (first : UInt8) :
    encodedLen first = 1 ∨ encodedLen first = 2 ∨ encodedLen first = 4 ∨ encodedLen first = 8 := by
  have small : ((first &&& 0xc0) >>> 6).toNat < 4 := by
    show (first.toNat &&& 192) >>> 6 < 4
    rw [Nat.shiftRight_eq_div_pow]
    have := Nat.and_le_right (n := first.toNat) (m := 192)
    omega
  unfold encodedLen
  generalize ((first &&& 0xc0) >>> 6).toNat = t at small ⊢
  interval_cases t <;> simp

theorem read_cons (first : UInt8) (rest : List UInt8) : read (first :: rest) = (do
    let b1 := (first &&& (0xff - 0xc0)).toNat
    if encodedLen first = 1 then return b1
    let b2 := (← readByte).toNat
    if encodedLen first = 2 then return b2 + b1 * 2 ^ 8
    let b3 := (← readByte).toNat
    let b4 := (← readByte).toNat
    if encodedLen first = 4 then return b4 + b3 * 2 ^ 8 + b2 * 2 ^ 16 + b1 * 2 ^ 24
    let b5 := (← readByte).toNat
    let b6 := (← readByte).toNat
    let b7 := (← readByte).toNat
    let b8 := (← readByte).toNat
    return b8 + b7 * 2 ^ 8 + b6 * 2 ^ 16 + b5 * 2 ^ 24 + b4 * 2 ^ 32 + b3 * 2 ^ 40 +
      b2 * 2 ^ 48 + b1 * 2 ^ 56) rest := rfl

theorem read_complete (first : UInt8) (rest : List UInt8) (complete : encodedLen first - 1 ≤ rest.length) :
    read (first :: rest) =
      .ok (encodedValue first (rest.take (encodedLen first - 1))) (rest.drop (encodedLen first - 1)) := by
  rw [read_cons]
  rcases encodedLen_cases first with len | len | len | len <;> rw [len] at complete ⊢
  · simp [encodedValue, beValue]
  · rcases rest with _ | ⟨b2, r⟩
    · simp at complete
    · simp [readByte, encodedValue, beValue]
      omega
  · rcases rest with _ | ⟨b2, _ | ⟨b3, _ | ⟨b4, r⟩⟩⟩
    all_goals try (simp only [List.length_cons, List.length_nil] at complete; omega)
    simp [readByte, encodedValue, beValue]
    omega
  · rcases rest with _ | ⟨b2, _ | ⟨b3, _ | ⟨b4, _ | ⟨b5, _ | ⟨b6, _ | ⟨b7, _ | ⟨b8, r⟩⟩⟩⟩⟩⟩⟩
    all_goals try (simp only [List.length_cons, List.length_nil] at complete; omega)
    simp [readByte, encodedValue, beValue]
    omega

theorem read_truncated (first : UInt8) (rest : List UInt8) (truncated : rest.length < encodedLen first - 1) :
    read (first :: rest) = .error "EOF" [] := by
  rw [read_cons]
  rcases encodedLen_cases first with len | len | len | len <;> rw [len] at truncated ⊢
  · simp at truncated
  · rcases rest with _ | ⟨b2, r⟩
    · simp [readByte]
    · simp at truncated
  · rcases rest with _ | ⟨b2, _ | ⟨b3, _ | ⟨b4, r⟩⟩⟩
    all_goals try (simp only [List.length_cons, List.length_nil] at truncated; omega)
    all_goals simp [readByte]
  · rcases rest with _ | ⟨b2, _ | ⟨b3, _ | ⟨b4, _ | ⟨b5, _ | ⟨b6, _ | ⟨b7, _ | ⟨b8, r⟩⟩⟩⟩⟩⟩⟩
    all_goals try (simp only [List.length_cons, List.length_nil] at truncated; omega)
    all_goals simp [readByte]

theorem length_lt_of_read {bs rest : List UInt8} {i : Nat} (run : read bs = .ok i rest) :
    rest.length < bs.length := by
  cases bs with
  | nil => simp [read, readByte] at run
  | cons first tail =>
    by_cases complete : encodedLen first - 1 ≤ tail.length
    · rw [read_complete first tail complete] at run
      simp only [Result.ok.injEq] at run
      rw [← run.2, List.length_drop, List.length_cons]
      omega
    · rw [read_truncated first tail (by omega)] at run
      cases run

/-! ## `Len`, `Append` and `AppendWithLen` against `Read` -/

theorem size_spec {i : Nat} (fits : i ≤ maxVarInt8) :
    size i ∈ [1, 2, 4, 8] ∧ i < 2 ^ (8 * size i - 2) ∧ ∀ l ∈ [1, 2, 4, 8], i < 2 ^ (8 * l - 2) → size i ≤ l := by
  unfold maxVarInt8 at fits
  unfold size maxVarInt1 maxVarInt2 maxVarInt4
  split_ifs <;> simp <;> omega

theorem lt_256_pow_size {i : Nat} (fits : i ≤ maxVarInt8) : i < 256 ^ size i := by
  have range := (size_spec fits).2.1
  have bits : 2 ^ (8 * size i - 2) ≤ 256 ^ size i := by
    rw [show (256 : Nat) = 2 ^ 8 from rfl, ← Nat.pow_mul]
    exact Nat.pow_le_pow_right (by decide) (by omega)
  omega

theorem append_reads {i : Nat} (fits : i ≤ maxVarInt8) :
    ∃ enc, enc.length = size i ∧ (∀ {σ : Type} (b : List UInt8) (s : σ), append b i s = .ok (b ++ enc) s) ∧
      ∀ rest, read (enc ++ rest) = .ok i rest := by
  obtain ⟨enc, run, reads⟩ := append_encodes fits
  obtain ⟨-, written, same, length⟩ := append_writes i [] () _ () (run [] ())
  rw [List.nil_append, List.nil_append] at same
  exact ⟨enc, same ▸ length, run, reads⟩

theorem encodedLen_prefix {length : Nat} (valid : length = 2 ∨ length = 4 ∨ length = 8) :
    encodedLen (if length = 2 then 0b01000000 else if length = 4 then 0b10000000 else 0b11000000) = length ∧
      ((if length = 2 then (0b01000000 : UInt8) else if length = 4 then 0b10000000 else 0b11000000) &&&
        (0xff - 0xc0)).toNat = 0 := by
  rcases valid with rfl | rfl | rfl <;> decide

theorem appendWithLen_reads {i length : Nat} (fits : i ≤ maxVarInt8)
    (valid : length = 1 ∨ length = 2 ∨ length = 4 ∨ length = 8) (long : size i ≤ length) :
    ∃ enc, enc.length = length ∧
      (∀ {σ : Type} (b : List UInt8) (s : σ), appendWithLen b i length s = .ok (b ++ enc) s) ∧
      ∀ rest, read (enc ++ rest) = .ok i rest := by
  have notInvalid : ¬ (length ≠ 1 ∧ length ≠ 2 ∧ length ≠ 4 ∧ length ≠ 8) := by omega
  by_cases same : size i = length
  · obtain ⟨enc, encLen, run, reads⟩ := append_reads fits
    refine ⟨enc, encLen.trans same, fun b s => ?_, reads⟩
    rw [appendWithLen, if_neg notInvalid, Call.bind_of_ok (len_of_le fits s)]
    simp only [same, if_true, run]
  have longer : length = 2 ∨ length = 4 ∨ length = 8 := by
    have := size_pos i
    omega
  have prefixByte : ((if length = 2 then [0b01000000] else if length = 4 then [0b10000000]
      else if length = 8 then [0b11000000] else []) : List UInt8) =
      [if length = 2 then 0b01000000 else if length = 4 then 0b10000000 else 0b11000000] := by
    rcases longer with rfl | rfl | rfl <;> rfl
  obtain ⟨prefixLen, prefixValue⟩ := encodedLen_prefix longer
  refine ⟨(if length = 2 then 0b01000000 else if length = 4 then 0b10000000 else 0b11000000) ::
    (List.replicate (length - size i - 1) 0 ++ bigEndian i (size i)), ?_, fun b s => ?_, fun rest => ?_⟩
  · simp
    omega
  · rw [appendWithLen, if_neg notInvalid, Call.bind_of_ok (len_of_le fits s)]
    simp only [same, show ¬ size i > length by omega, prefixByte, if_false,
      Call.pure, List.append_assoc, List.cons_append, List.nil_append]
  · have payload : (List.replicate (length - size i - 1) 0 ++ bigEndian i (size i)).length = length - 1 := by
      simp
      omega
    rw [List.cons_append, read_complete _ _ (by simp [prefixLen]; omega), prefixLen, ← payload,
      List.take_left, List.drop_left, encodedValue, prefixValue, Nat.zero_mul, Nat.zero_add,
      beValue_replicate_zero, beValue_bigEndian, Nat.mod_eq_of_lt (lt_256_pow_size fits)]

/-- The QUIC varint codec.  For every 62-bit value `i`: `Len(i)` returns
`size i`; `Append` writes that many bytes after any prefix, which `Read` gives
back as `i`; `Len(i)` is the least of 1, 2, 4 and 8 whose range holds `i`; and
`AppendWithLen` in every valid length
from `Len(i)` on writes that many bytes, which `Read` gives back as `i`.  And on
any bytes `Read` returns the value of a complete encoding, the bytes after it
unread, and fails only on bytes that end inside one. -/
theorem quicvarint_codec (i : Nat) (fits : i < 2 ^ 62) :
    (∀ {σ : Type} (s : σ), (len i : Call σ Nat) s = .ok (size i) s) ∧
    (∃ enc, enc.length = size i ∧ (∀ {σ : Type} (b : List UInt8) (s : σ), append b i s = .ok (b ++ enc) s) ∧
        ∀ rest, read (enc ++ rest) = .ok i rest) ∧
      (size i ∈ [1, 2, 4, 8] ∧ i < 2 ^ (8 * size i - 2) ∧
        ∀ l ∈ [1, 2, 4, 8], i < 2 ^ (8 * l - 2) → size i ≤ l) ∧
      (∀ l ∈ [1, 2, 4, 8], size i ≤ l → ∃ enc, enc.length = l ∧
        (∀ {σ : Type} (b : List UInt8) (s : σ), appendWithLen b i l s = .ok (b ++ enc) s) ∧
        ∀ rest, read (enc ++ rest) = .ok i rest) ∧
      (∀ first rest, (encodedLen first - 1 ≤ rest.length →
          read (first :: rest) =
            .ok (encodedValue first (rest.take (encodedLen first - 1))) (rest.drop (encodedLen first - 1))) ∧
        (rest.length < encodedLen first - 1 → read (first :: rest) = .error "EOF" [])) ∧
      read [] = .error "EOF" [] := by
  have fits' := le_maxVarInt8_of_lt fits
  refine ⟨fun s => len_of_le fits' s, append_reads fits', size_spec fits', fun l valid long => ?_,
    fun first rest => ⟨read_complete first rest, read_truncated first rest⟩, rfl⟩
  exact appendWithLen_reads fits' (by simpa using valid) long

/-- The first value of four bytes. -/
theorem quicvarint_codec_sixteenKiB :
    16384 < 2 ^ 62 ∧
    (∀ {σ : Type} (s : σ), (len 16384 : Call σ Nat) s = .ok (size 16384) s) ∧
    (∃ enc, enc.length = size 16384 ∧ (∀ {σ : Type} (b : List UInt8) (s : σ), append b 16384 s = .ok (b ++ enc) s) ∧
        ∀ rest, read (enc ++ rest) = .ok 16384 rest) ∧
      (size 16384 ∈ [1, 2, 4, 8] ∧ 16384 < 2 ^ (8 * size 16384 - 2) ∧
        ∀ l ∈ [1, 2, 4, 8], 16384 < 2 ^ (8 * l - 2) → size 16384 ≤ l) ∧
      (∀ l ∈ [1, 2, 4, 8], size 16384 ≤ l → ∃ enc, enc.length = l ∧
        (∀ {σ : Type} (b : List UInt8) (s : σ), appendWithLen b 16384 l s = .ok (b ++ enc) s) ∧
        ∀ rest, read (enc ++ rest) = .ok 16384 rest) ∧
      (∀ first rest, (encodedLen first - 1 ≤ rest.length →
          read (first :: rest) =
            .ok (encodedValue first (rest.take (encodedLen first - 1))) (rest.drop (encodedLen first - 1))) ∧
        (rest.length < encodedLen first - 1 → read (first :: rest) = .error "EOF" [])) ∧
      read [] = .error "EOF" [] :=
  ⟨by decide, quicvarint_codec 16384 (by decide)⟩

end QuicFec.Quicvarint
