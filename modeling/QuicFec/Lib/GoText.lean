import Mathlib

/-! # Go's text functions

The functions of Go's standard library that check and normalise header
names: `unicode.ToLower` over the case table `unicode.CaseRanges`,
`strings.ToLower` and `strings.Map` on it, and `textproto.CanonicalMIMEHeaderKey`.
A Go string is its bytes; a Lean `String` is valid UTF-8, and on those the
byte loops below read one character at a time: a character outside ASCII is
exactly a run of bytes at or above `utf8.RuneSelf`.  Runes are `Int`s.

The case table is data of the Go runtime, not code, and stays a parameter:
`unicode.to` searches whatever table it is given, as Go does. -/
set_option autoImplicit false

namespace Go

namespace Unicode

def maxASCII : Int := 0x7F

def maxRune : Int := 0x10FFFF

def replacementChar : Int := 0xFFFD

/-- `unicode.MaxCase`: upper, lower and title case. -/
def maxCase : Nat := 3

def lowerCase : Fin maxCase := ⟨1, by decide⟩

/-- `unicode.CaseRange`: the runes `lo` to `hi` and the distance to each case;
a distance above `MaxRune` (`UpperLower`) marks alternating upper and lower
case runes. -/
structure CaseRange where
  lo : Int
  hi : Int
  delta : Vector Int maxCase
deriving DecidableEq, Repr

/-- The loop of `unicode.to`: a binary search of `caseRange[lo:hi]`. -/
def toSearch (case : Fin maxCase) (r : Int) (caseRange : List CaseRange) (lo hi : Nat)
    (bound : hi ≤ caseRange.length) : Int × Bool :=
  if lt : lo < hi then
    let m := (lo + hi) / 2
    let cr := caseRange.get ⟨m, by omega⟩
    if cr.lo ≤ r ∧ r ≤ cr.hi then
      let delta := cr.delta.get case
      -- `rune(cr.Lo) + ((r-rune(cr.Lo))&^1 | rune(_case&1))`, the low bit of the offset replaced
      if delta > maxRune then (cr.lo + ((r - cr.lo) / 2 * 2 + (case.val % 2 : Nat)), true)
      else (r + delta, true)
    else if r < cr.lo then toSearch case r caseRange lo m (by omega)
    else toSearch case r caseRange (m + 1) hi bound
  else (r, false)
termination_by hi - lo

/-- `unicode.to` (`to` is a keyword of Lean): the rune in case `case`, and
whether the table maps it. -/
def toCaseRange (case : Nat) (r : Int) (caseRange : List CaseRange) : Int × Bool :=
  if h : case < maxCase then toSearch ⟨case, h⟩ r caseRange 0 caseRange.length le_rfl
  else (replacementChar, false)

/-- `unicode.To` over the table `caseRanges`. -/
def toCase (caseRanges : List CaseRange) (case : Nat) (r : Int) : Int := (toCaseRange case r caseRanges).1

def toLower (caseRanges : List CaseRange) (r : Int) : Int :=
  if r ≤ maxASCII then
    if 'A'.toNat ≤ r ∧ r ≤ 'Z'.toNat then r + ('a'.toNat - 'A'.toNat) else r
  else toCase caseRanges lowerCase r

end Unicode

namespace Utf8

def runeSelf : Nat := 0x80

/-- The character `utf8.AppendRune` writes for a rune: `RuneError` for a value
that is no character. -/
def runeChar (r : Int) : Char :=
  if r.toNat.isValidChar then Char.ofNat r.toNat else Char.ofNat Unicode.replacementChar.toNat

end Utf8

namespace Strings

/-- `strings.Map` on valid UTF-8: each character mapped, and dropped where the
mapping is negative.  Go's first loop only looks for the first character that
changes; on valid UTF-8 the string it builds is this one. -/
def map (mapping : Int → Int) (s : String) : String :=
  String.ofList (s.toList.filterMap fun c =>
    let r := mapping c.toNat
    if r ≥ 0 then some (Utf8.runeChar r) else none)

/-- `strings.ToLower`: ASCII strings with no upper case letter come back as
they are, other ASCII strings have `A`-`Z` lowered byte by byte, and others
are mapped rune by rune with `unicode.ToLower`. -/
def toLower (caseRanges : List Unicode.CaseRange) (s : String) : String :=
  let isASCII := s.toList.all fun c => c.toNat < Utf8.runeSelf
  let hasUpper := s.toList.any fun c => 'A' ≤ c ∧ c ≤ 'Z'
  if isASCII then
    if !hasUpper then s
    else String.ofList (s.toList.map fun c => if 'A' ≤ c ∧ c ≤ 'Z' then Char.ofNat (c.toNat + 32) else c)
  else map (Unicode.toLower caseRanges) s

theorem toLower_eq_self_of_ascii (caseRanges : List Unicode.CaseRange) {s : String}
    (ascii : ∀ c ∈ s.toList, c.toNat < Utf8.runeSelf) :
    toLower caseRanges s = s ↔ ∀ c ∈ s.toList, ¬ ('A' ≤ c ∧ c ≤ 'Z') := by
  have allASCII : (s.toList.all fun c => decide (c.toNat < Utf8.runeSelf)) = true :=
    List.all_eq_true.mpr fun c mem => decide_eq_true (ascii c mem)
  unfold toLower
  simp only [allASCII, if_true]
  by_cases upper : (s.toList.any fun c => decide ('A' ≤ c ∧ c ≤ 'Z')) = true
  · obtain ⟨c, mem, isUpper⟩ := List.any_eq_true.mp upper
    have lowered : Char.ofNat (c.toNat + 32) ≠ c := by
      obtain ⟨atLeastA, -⟩ := of_decide_eq_true isUpper
      have code : 65 ≤ c.toNat := atLeastA
      intro same
      have codes := congrArg Char.toNat same
      rw [Char.toNat_ofNat] at codes
      split_ifs at codes <;> omega
    simp only [upper, Bool.not_true, Bool.false_eq_true, if_false]
    refine ⟨fun same => ?_, fun none => absurd (of_decide_eq_true isUpper) (none c mem)⟩
    have mapped := congrArg String.toList same
    rw [String.toList_ofList] at mapped
    have fixed := List.map_inj_left.mp (mapped.trans (List.map_id s.toList).symm)
    exact absurd (by simpa [of_decide_eq_true isUpper] using fixed c mem) lowered
  · simp only [Bool.not_eq_true] at upper
    simp only [upper, Bool.not_false, if_true, true_iff]
    intro c mem isUpper
    have := List.any_eq_false.mp upper c mem
    simp_all

end Strings

namespace Textproto

/-- `validHeaderFieldByte`: a `tchar` of RFC 7230, a digit, a letter or one of
``!#$%&'*+-.^_`|~`` (the codes below). -/
def validHeaderFieldByte (c : Char) : Bool :=
  c.isDigit || c.isLower || c.isUpper || [33, 35, 36, 37, 38, 39, 42, 43, 45, 46, 94, 95, 96, 124, 126].contains c.toNat

/-- The rewrite of `canonicalMIMEHeaderKey`: upper case first and after each
dash, lower case elsewhere. -/
def canonicalize : Bool → List Char → List Char
  | _, [] => []
  | upper, c :: cs =>
    let c := if upper ∧ 'a' ≤ c ∧ c ≤ 'z' then Char.ofNat (c.toNat - 32)
      else if !upper ∧ 'A' ≤ c ∧ c ≤ 'Z' then Char.ofNat (c.toNat + 32) else c
    c :: canonicalize (c = '-') cs

/-- `canonicalMIMEHeaderKey`, which returns the key unchanged when a byte is
no header byte, or a space; its `commonHeader` lookup returns an equal
string, and its `ok` result is not read. -/
def canonicalMIMEHeaderKeyBytes (a : List Char) : String :=
  if a.all fun c => validHeaderFieldByte c || c = ' ' then
    if a.contains ' ' then String.ofList a else String.ofList (canonicalize true a)
  else String.ofList a

/-- The quick check of `CanonicalMIMEHeaderKey`: the key as it is, unless a
byte before the first non-header byte needs rewriting. -/
def quickCheck (s : String) : Bool → List Char → String
  | _, [] => s
  | upper, c :: cs =>
    if !validHeaderFieldByte c then s
    else if upper ∧ 'a' ≤ c ∧ c ≤ 'z' then canonicalMIMEHeaderKeyBytes s.toList
    else if !upper ∧ 'A' ≤ c ∧ c ≤ 'Z' then canonicalMIMEHeaderKeyBytes s.toList
    else quickCheck s (c = '-') cs

def canonicalMIMEHeaderKey (s : String) : String := quickCheck s true s.toList

example : canonicalMIMEHeaderKey "content-length" = "Content-Length" := by decide

example : canonicalMIMEHeaderKey "x-my header" = "x-my header" := by decide

end Textproto

end Go
