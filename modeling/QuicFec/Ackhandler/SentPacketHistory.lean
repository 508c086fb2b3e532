import QuicFec.Lib.Go
import QuicFec.Wire.AckFrame

/-! # The sent packet history

`internal/ackhandler/sent_packet_history.go`: the packets of one packet number
space that were sent and are neither acknowledged nor lost, one slot per packet
number from the first one held on.  A nil slot is a packet that was not
ack-eliciting or is gone; `Remove` and `DeclareLost` find a packet's slot by
its distance from the first slot's packet number, so the history is only
usable while every held packet sits at that distance (`Wellformed`).

`detectAndRemoveAckedPackets` (`sent_packet_handler.go`) walks the history
and the ranges of an ACK frame in lock-step and removes what the frame
acknowledges.  Of the packet a slot holds, the model keeps what the history
and the walk read; the frames' `OnAcked` callbacks are a log of the packets
they were called for. -/
set_option autoImplicit false

namespace QuicFec.Ackhandler

open Go QuicFec.Protocol QuicFec.Wire

/-- `ackhandler.packet`; a field left out is Go's zero value. -/
structure Packet where
  packetNumber : PacketNumber
  largestAcked : PacketNumber := 0
  isPathMTUProbePacket : Bool := false
  declaredLost : Bool := false
  skippedPacket : Bool := false
deriving DecidableEq, Repr

def Packet.outstanding (p : Packet) : Bool :=
  !p.declaredLost && !p.skippedPacket && !p.isPathMTUProbePacket

theorem Packet.not_outstanding_of_skipped {p : Packet} (skipped : p.skippedPacket = true) :
    p.outstanding = false := by
  simp [outstanding, skipped]

structure SentPacketHistory where
  packets : List (Option Packet)
  numOutstanding : Int
  highestPacketNumber : PacketNumber
deriving DecidableEq, Repr

namespace SentPacketHistory

def newSentPacketHistory : SentPacketHistory := ⟨[], 0, invalidPacketNumber⟩

def checkSequentialPacketNumberUse (pn : PacketNumber) : Call SentPacketHistory Unit := do
  let h ← Call.get
  if h.highestPacketNumber ≠ invalidPacketNumber then
    if pn ≠ h.highestPacketNumber + 1 then Call.panic "non-sequential packet number use"

def skippedPacket (pn : PacketNumber) : Call SentPacketHistory Unit := do
  checkSequentialPacketNumberUse pn
  Call.modify fun h => { h with
    highestPacketNumber := pn
    packets := h.packets ++ [some { packetNumber := pn, skippedPacket := true }] }

def sentNonAckElicitingPacket (pn : PacketNumber) : Call SentPacketHistory Unit := do
  checkSequentialPacketNumberUse pn
  Call.modify fun h => { h with
    highestPacketNumber := pn
    packets := if h.packets.length > 0 then h.packets ++ [none] else h.packets }

def sentAckElicitingPacket (p : Packet) : Call SentPacketHistory Unit := do
  checkSequentialPacketNumberUse p.packetNumber
  Call.modify fun h => { h with
    highestPacketNumber := p.packetNumber
    packets := h.packets ++ [some p]
    numOutstanding := if p.outstanding then h.numOutstanding + 1 else h.numOutstanding }

/-- `Iterate`: `cb` is called on the packets in slot order, skipping nil slots,
until it returns an error or asks to stop. -/
def iterate {σ ε : Type} (cb : Packet → σ → (Bool × Option ε) × σ) :
    List (Option Packet) → σ → Option ε × σ
  | [], s => (none, s)
  | none :: rest, s => iterate cb rest s
  | some p :: rest, s =>
      match cb p s with
      | ((_, some err), s') => (some err, s')
      | ((false, none), s') => (none, s')
      | ((true, none), s') => iterate cb rest s'

def hasOutstandingPackets (h : SentPacketHistory) : Bool := decide (0 < h.numOutstanding)

def firstOutstanding (h : SentPacketHistory) : Option Packet :=
  if !h.hasOutstandingPackets then none
  else h.packets.findSome? fun slot => slot.filter Packet.outstanding

/-- `getIndex`: the slot of packet number `p`, if the slots reach it. -/
def getIndex (p : PacketNumber) : Call SentPacketHistory (Option Nat) := do
  let h ← Call.get
  match h.packets with
  | [] => pure none
  | slot :: _ =>
      let first := (← Call.deref slot).packetNumber
      if p < first then pure none
      else
        let index := (p - first).toNat
        if index > h.packets.length - 1 then pure none else pure (some index)

/-- `cleanupStart`: the nil slots at the start go. -/
def cleanupStart (packets : List (Option Packet)) : List (Option Packet) :=
  packets.dropWhile Option.isNone

/-- How `Remove` and `DeclareLost` both start: the packet in slot `idx` leaves
`numOutstanding` and its slot. -/
def takeOut (idx : Nat) : Call SentPacketHistory Unit := do
  let h ← Call.get
  let p ← Call.deref (← index h.packets idx)
  if p.outstanding then
    Call.modify fun h => { h with numOutstanding := h.numOutstanding - 1 }
    if (← Call.get).numOutstanding < 0 then Call.panic "negative number of outstanding packets"
  Call.modify fun h => { h with packets := h.packets.set idx none }

/-- The loop of `Remove` that clears the skipped packets directly below slot
`idx`; it returns the slot it stopped at. -/
def clearSkippedBelow : Nat → Call SentPacketHistory Nat
  | 0 => pure 0
  | idx + 1 => do
      let h ← Call.get
      match ← index h.packets idx with
      | some p =>
          if p.skippedPacket then
            Call.modify fun h => { h with packets := h.packets.set idx none }
            clearSkippedBelow idx
          else pure idx
      | none => pure idx

def remove (pn : PacketNumber) : Call SentPacketHistory Unit := do
  match ← getIndex pn with
  | none => Call.fail s!"packet {pn} not found in sent packet history"
  | some idx =>
      takeOut idx
      let idx ← clearSkippedBelow idx
      if idx = 0 then Call.modify fun h => { h with packets := cleanupStart h.packets }
      let h ← Call.get
      if h.packets.length > 0 ∧ h.packets.head? = some none then Call.panic "remove failed"

def declareLost (pn : PacketNumber) : Call SentPacketHistory Unit := do
  match ← getIndex pn with
  | none => pure ()
  | some idx =>
      takeOut idx
      if idx = 0 then Call.modify fun h => { h with packets := cleanupStart h.packets }

/-! ## The invariant -/

/-- The slot at index `i` holds packet number `base + i`. -/
def Numbered (base : PacketNumber) (packets : List (Option Packet)) : Prop :=
  ∀ (i : Nat) (p : Packet), packets[i]? = some (some p) → p.packetNumber = base + i

/-- The slots are those of the packet numbers `base` to `highest`. -/
def Spans (base highest : PacketNumber) (packets : List (Option Packet)) : Prop :=
  Numbered base packets ∧ base + packets.length = highest + 1

/-- `packets[0]` is not nil, and the slots are those of its packet number up to
the highest one sent. -/
def Laid (highest : PacketNumber) : List (Option Packet) → Prop
  | [] => True
  | none :: _ => False
  | some first :: rest => Spans first.packetNumber highest (some first :: rest)

/-- The non-nil outstanding slots. -/
def numOutstandingIn (packets : List (Option Packet)) : Nat :=
  packets.countP fun slot => slot.any Packet.outstanding

/-- What keeps `getIndex` right and the panics of `Remove` away. -/
structure Wellformed (h : SentPacketHistory) : Prop where
  laid : Laid h.highestPacketNumber h.packets
  counted : h.numOutstanding = numOutstandingIn h.packets

theorem wellformed_newSentPacketHistory : Wellformed newSentPacketHistory :=
  ⟨trivial, rfl⟩

theorem Numbered.tail {base : PacketNumber} {slot : Option Packet} {ps : List (Option Packet)}
    (numbered : Numbered base (slot :: ps)) : Numbered (base + 1) ps := by
  intro i p held
  have := numbered (i + 1) p (by simpa using held)
  unfold PacketNumber at *
  omega

theorem Numbered.drop {base : PacketNumber} {ps rest : List (Option Packet)}
    (numbered : Numbered base (ps ++ rest)) : Numbered (base + ps.length) rest := by
  intro i p held
  have := numbered (ps.length + i) p (by rw [List.getElem?_append_right (by omega)]; simpa using held)
  unfold PacketNumber at *
  omega

theorem Numbered.le {base : PacketNumber} {ps : List (Option Packet)} (numbered : Numbered base ps)
    {q : Packet} (held : some q ∈ ps) : base ≤ q.packetNumber := by
  obtain ⟨i, inside, slot⟩ := List.getElem_of_mem held
  have := numbered i q (by simp [List.getElem?_eq_getElem inside, slot])
  unfold PacketNumber at *
  omega

theorem Numbered.pairwise : ∀ {base : PacketNumber} {ps : List (Option Packet)}, Numbered base ps →
    ps.reduceOption.Pairwise fun p q => p.packetNumber < q.packetNumber
  | _, [], _ => List.Pairwise.nil
  | _, none :: ps, numbered => by
      rw [List.reduceOption_cons_of_none]
      exact numbered.tail.pairwise
  | base, some p :: ps, numbered => by
      rw [List.reduceOption_cons_of_some]
      refine List.Pairwise.cons ?_ numbered.tail.pairwise
      intro q later
      have first : p.packetNumber = base + 0 := numbered 0 p rfl
      have above := numbered.tail.le (List.reduceOption_mem_iff.mp later)
      unfold PacketNumber at *
      omega

theorem Numbered.snoc {base : PacketNumber} {ps : List (Option Packet)} (numbered : Numbered base ps)
    {slot : Option Packet} (next : ∀ p, slot = some p → p.packetNumber = base + ps.length) :
    Numbered base (ps ++ [slot]) := by
  intro i p held
  rw [List.getElem?_append] at held
  split at held
  · exact numbered i p held
  · have last : i = ps.length := by
      have := (List.getElem?_eq_some_iff.mp held).1
      simp only [List.length_singleton] at this
      omega
    subst last
    exact next p (by simpa using held)

/-! ### Slots set to nil -/

/-- `ps'` is `ps` with some slots set to nil, each of them holding a packet
`keep` rejects. -/
def Clears (keep : Packet → Prop) (ps ps' : List (Option Packet)) : Prop :=
  ps'.length = ps.length ∧
    ∀ j : Nat, ps'[j]? = ps[j]? ∨ ps'[j]? = some none ∧ ∃ q, ps[j]? = some (some q) ∧ ¬ keep q

theorem clears_refl (keep : Packet → Prop) (ps : List (Option Packet)) : Clears keep ps ps :=
  ⟨rfl, fun _ => .inl rfl⟩

theorem clears_set {ps : List (Option Packet)} {i : Nat} {p : Packet} (slot : ps[i]? = some (some p))
    {keep : Packet → Prop} (rejected : ¬ keep p) : Clears keep ps (ps.set i none) := by
  refine ⟨List.length_set, fun j => ?_⟩
  rw [List.getElem?_set]
  by_cases same : i = j
  · subst same
    have inside := (List.getElem?_eq_some_iff.mp slot).1
    exact .inr ⟨by simp [inside], p, slot, rejected⟩
  · exact .inl (by simp [same])

theorem Clears.trans {keep : Packet → Prop} {ps ps' ps'' : List (Option Packet)}
    (first : Clears keep ps ps') (second : Clears keep ps' ps'') : Clears keep ps ps'' := by
  refine ⟨second.1.trans first.1, fun j => ?_⟩
  rcases second.2 j with same | ⟨cleared, q, slot, rejected⟩
  · rw [same]
    exact first.2 j
  · rcases first.2 j with same' | ⟨_, q', slot', rejected'⟩
    · exact .inr ⟨cleared, q, same' ▸ slot, rejected⟩
    · exact .inr ⟨cleared, q', slot', rejected'⟩

theorem Clears.mono {keep keep' : Packet → Prop} {ps ps' : List (Option Packet)}
    (clears : Clears keep ps ps') (imp : ∀ q, keep' q → keep q) : Clears keep' ps ps' := by
  refine ⟨clears.1, fun j => ?_⟩
  rcases clears.2 j with same | ⟨cleared, q, slot, rejected⟩
  · exact .inl same
  · exact .inr ⟨cleared, q, slot, fun kept => rejected (imp q kept)⟩

theorem Clears.numbered {keep : Packet → Prop} {ps ps' : List (Option Packet)} (clears : Clears keep ps ps')
    {base : PacketNumber} (numbered : Numbered base ps) : Numbered base ps' := by
  intro j p slot
  rcases clears.2 j with same | ⟨cleared, _⟩
  · exact numbered j p (same ▸ slot)
  · rw [cleared] at slot
    cases slot

theorem Clears.spans {keep : Packet → Prop} {ps ps' : List (Option Packet)} (clears : Clears keep ps ps')
    {base highest : PacketNumber} (spans : Spans base highest ps) : Spans base highest ps' :=
  ⟨clears.numbered spans.1, by rw [clears.1]; exact spans.2⟩

theorem Clears.mem {keep : Packet → Prop} {ps ps' : List (Option Packet)} (clears : Clears keep ps ps')
    {q : Packet} (held : some q ∈ ps') : some q ∈ ps := by
  obtain ⟨j, inside, slot⟩ := List.getElem_of_mem held
  have slot' : ps'[j]? = some (some q) := by simp [List.getElem?_eq_getElem inside, slot]
  rcases clears.2 j with same | ⟨cleared, _⟩
  · exact List.mem_of_getElem? (same ▸ slot')
  · rw [cleared] at slot'
    cases slot'

theorem Clears.keeps {keep : Packet → Prop} {ps ps' : List (Option Packet)} (clears : Clears keep ps ps')
    {q : Packet} (held : some q ∈ ps) (kept : keep q) : some q ∈ ps' := by
  obtain ⟨j, inside, slot⟩ := List.getElem_of_mem held
  have slot' : ps[j]? = some (some q) := by simp [List.getElem?_eq_getElem inside, slot]
  rcases clears.2 j with same | ⟨_, q', other, rejected⟩
  · exact List.mem_of_getElem? (same.trans slot')
  · rw [slot'] at other
    cases other
    exact absurd kept rejected

theorem Clears.numOutstandingIn {keep : Packet → Prop} {ps ps' : List (Option Packet)}
    (clears : Clears keep ps ps') (notOutstanding : ∀ q, ¬ keep q → q.outstanding = false) :
    numOutstandingIn ps' = numOutstandingIn ps := by
  have sameMap : ps'.map (fun slot => slot.any Packet.outstanding) =
      ps.map (fun slot => slot.any Packet.outstanding) := by
    apply List.ext_getElem?
    intro j
    rw [List.getElem?_map, List.getElem?_map]
    rcases clears.2 j with same | ⟨cleared, q, slot, rejected⟩
    · rw [same]
    · rw [cleared, slot]
      simp [notOutstanding q rejected]
  have count : ∀ ps : List (Option Packet), SentPacketHistory.numOutstandingIn ps =
      (ps.map fun slot => slot.any Packet.outstanding).countP id := by
    intro ps
    rw [List.countP_map]
    rfl
  rw [count, count, sameMap]

theorem numOutstandingIn_set {ps : List (Option Packet)} {i : Nat} {p : Packet}
    (slot : ps[i]? = some (some p)) :
    numOutstandingIn (ps.set i none) + (if p.outstanding then 1 else 0) = numOutstandingIn ps := by
  obtain ⟨inside, held⟩ := List.getElem?_eq_some_iff.mp slot
  have atLeast : (if p.outstanding then 1 else 0) ≤ numOutstandingIn ps := by
    split
    · exact List.countP_pos_iff.mpr ⟨some p, List.mem_of_getElem? slot, by simpa⟩
    · exact Nat.zero_le _
  simp only [numOutstandingIn, List.countP_set inside, held, Option.any_some, Option.any_none,
    Bool.false_eq_true, ↓reduceIte, Nat.add_zero]
  simp only [numOutstandingIn] at atLeast
  omega

/-! ### `cleanupStart` -/

theorem mem_cleanupStart {ps : List (Option Packet)} {q : Packet} :
    some q ∈ cleanupStart ps ↔ some q ∈ ps := by
  constructor
  · exact fun held => List.dropWhile_sublist _ |>.mem held
  · intro held
    rw [← List.takeWhile_append_dropWhile (p := Option.isNone) (l := ps), List.mem_append] at held
    rcases held with dropped | kept
    · have := List.mem_takeWhile_imp dropped
      simp at this
    · exact kept

theorem numOutstandingIn_cleanupStart (ps : List (Option Packet)) :
    numOutstandingIn (cleanupStart ps) = numOutstandingIn ps := by
  have none : numOutstandingIn (ps.takeWhile Option.isNone) = 0 := by
    apply List.countP_eq_zero.mpr
    intro slot dropped
    have := List.mem_takeWhile_imp dropped
    cases slot <;> simp_all
  have split : numOutstandingIn ps =
      numOutstandingIn (ps.takeWhile Option.isNone) + numOutstandingIn (cleanupStart ps) := by
    conv => lhs; rw [← List.takeWhile_append_dropWhile (p := Option.isNone) (l := ps)]
    exact List.countP_append
  omega

theorem isSome_of_cleanupStart_eq_cons : ∀ {ps : List (Option Packet)} {slot : Option Packet}
    {rest : List (Option Packet)}, cleanupStart ps = slot :: rest → slot.isSome
  | [], _, _, start => by simp [cleanupStart] at start
  | none :: _, _, _, start => isSome_of_cleanupStart_eq_cons (by simpa [cleanupStart] using start)
  | some _ :: _, _, _, start => by
      simp only [cleanupStart, List.dropWhile_cons, Option.isNone_some, Bool.false_eq_true,
        ↓reduceIte, List.cons.injEq] at start
      rw [← start.1]
      rfl

theorem Spans.laid_cleanupStart {base highest : PacketNumber} {ps : List (Option Packet)}
    (spans : Spans base highest ps) : Laid highest (cleanupStart ps) := by
  have split : ps.takeWhile Option.isNone ++ cleanupStart ps = ps := List.takeWhile_append_dropWhile
  have numbered : Numbered (base + (ps.takeWhile Option.isNone).length) (cleanupStart ps) := by
    have whole := spans.1
    rw [← split] at whole
    exact whole.drop
  have length : (ps.takeWhile Option.isNone).length + (cleanupStart ps).length = ps.length := by
    rw [← List.length_append, split]
  cases rest : cleanupStart ps with
  | nil => trivial
  | cons slot rest' =>
      have held := isSome_of_cleanupStart_eq_cons rest
      rw [rest] at numbered length
      cases slot with
      | none => cases held
      | some first =>
          have firstNumber := numbered 0 first rfl
          refine ⟨?_, ?_⟩
          · rw [firstNumber]
            simpa using numbered
          · have := spans.2
            simp only [List.length_cons] at length ⊢
            unfold PacketNumber at *
            omega

theorem Spans.laid {base highest : PacketNumber} {first : Packet} {rest : List (Option Packet)}
    (spans : Spans base highest (some first :: rest)) : Laid highest (some first :: rest) := by
  have firstNumber : first.packetNumber = base + 0 := spans.1 0 first rfl
  simp only [Int.add_zero] at firstNumber
  show Spans first.packetNumber highest (some first :: rest)
  rw [firstNumber]
  exact spans

theorem Laid.spans {highest : PacketNumber} {ps : List (Option Packet)} (laid : Laid highest ps)
    (nonempty : ps ≠ []) : ∃ first rest, ps = some first :: rest ∧ Spans first.packetNumber highest ps := by
  match ps, laid with
  | some first :: rest, laid => exact ⟨first, rest, rfl, laid⟩

/-! ## One lemma per call -/

section Calls

variable {h : SentPacketHistory}

theorem getIndex_spec (wellformed : Wellformed h) (pn : PacketNumber) :
    ∃ r, getIndex pn h = .ok r h ∧ (∀ i, r = some i → i < h.packets.length) ∧
      ∀ i p, h.packets[i]? = some (some p) → (p.packetNumber = pn ↔ r = some i) := by
  have laid := wellformed.laid
  cases slots : h.packets with
  | nil =>
      refine ⟨none, ?_, by simp, by simp⟩
      simp [getIndex, slots]
  | cons slot rest =>
      rw [slots] at laid
      cases slot with
      | none => exact laid.elim
      | some first =>
          refine ⟨if pn < first.packetNumber then none
            else if (pn - first.packetNumber).toNat > (some first :: rest).length - 1 then none
            else some (pn - first.packetNumber).toNat, ?_, ?_, ?_⟩
          · simp only [getIndex, Call.bind_apply, Call.get_apply, slots, Call.deref_some]
            split_ifs <;> rfl
          · intro i found
            split_ifs at found
            cases found
            simp only [List.length_cons] at *
            omega
          · intro i p slot
            have number := laid.1 i p slot
            have inside := (List.getElem?_eq_some_iff.mp slot).1
            simp only [List.length_cons] at inside ⊢
            unfold PacketNumber at *
            split_ifs <;> simp <;> omega

theorem takeOut_of_held (counted : h.numOutstanding = numOutstandingIn h.packets) {i : Nat} {p : Packet}
    (slot : h.packets[i]? = some (some p)) :
    takeOut i h = .ok () { h with
      packets := h.packets.set i none
      numOutstanding := h.numOutstanding - if p.outstanding then 1 else 0 } := by
  obtain ⟨inside, held⟩ := List.getElem?_eq_some_iff.mp slot
  have counts := numOutstandingIn_set slot
  simp only [takeOut, Call.bind_apply, Call.get_apply, index_apply_of_lt _ _ inside, List.get_eq_getElem,
    held, Call.deref_some]
  cases outstanding : p.outstanding
  · simp
  · simp only [↓reduceIte, Call.modify_apply, Call.bind_apply, Call.get_apply]
    rw [if_neg (by rw [outstanding] at counts; simp only [↓reduceIte] at counts; omega)]
    rfl

theorem takeOut_of_nil {i : Nat} (slot : h.packets[i]? = some none) :
    takeOut i h = .panic nilDereferenceMessage := by
  obtain ⟨inside, held⟩ := List.getElem?_eq_some_iff.mp slot
  simp [takeOut, Call.bind_apply, index_apply_of_lt _ _ inside, held]

theorem clearSkippedBelow_spec : ∀ (idx : Nat) (h : SentPacketHistory), idx ≤ h.packets.length →
    ∃ k ps, clearSkippedBelow idx h = .ok k { h with packets := ps } ∧ k ≤ idx ∧
      Clears (fun q => q.skippedPacket = false) h.packets ps ∧ (0 < k → ps.head? = h.packets.head?)
  | 0, h, _ => ⟨0, h.packets, rfl, le_refl 0, clears_refl _ _, fun zero => absurd zero (lt_irrefl 0)⟩
  | idx + 1, h, inRange => by
      have inside : idx < h.packets.length := inRange
      simp only [clearSkippedBelow, Call.bind_apply, Call.get_apply, index_apply_of_lt _ _ inside,
        List.get_eq_getElem]
      cases slot : h.packets[idx] with
      | none =>
          exact ⟨idx, h.packets, rfl, Nat.le_succ idx, clears_refl _ _, fun _ => rfl⟩
      | some p =>
          cases skipped : p.skippedPacket with
          | false =>
              refine ⟨idx, h.packets, ?_, Nat.le_succ idx, clears_refl _ _, fun _ => rfl⟩
              simp only [skipped, Bool.false_eq_true, ↓reduceIte, Call.pure_apply]
          | true =>
              have slot' : h.packets[idx]? = some (some p) := by rw [List.getElem?_eq_getElem inside, slot]
              obtain ⟨k, ps, run, below, clears, head⟩ :=
                clearSkippedBelow_spec idx { h with packets := h.packets.set idx none } (by simp; omega)
              refine ⟨k, ps, ?_, by omega, (clears_set slot' (by simp [skipped])).trans clears, ?_⟩
              · simpa [skipped] using run
              · intro above
                rw [head above, List.head?_eq_getElem?, List.head?_eq_getElem?, List.getElem?_set]
                simp only [if_neg (show idx ≠ 0 by omega)]

theorem Numbered.slot_unique {base : PacketNumber} {ps : List (Option Packet)} (numbered : Numbered base ps)
    {i j : Nat} {p : Packet} (first : ps[i]? = some (some p)) (second : ps[j]? = some (some p)) : i = j := by
  have atI := numbered i p first
  have atJ := numbered j p second
  unfold PacketNumber at *
  omega

theorem Laid.head_ne_none {highest : PacketNumber} {ps : List (Option Packet)} (laid : Laid highest ps) :
    ¬ (ps.length > 0 ∧ ps.head? = some none) := by
  rintro ⟨-, head⟩
  match ps, laid with
  | none :: _, laid => exact laid.elim
  | some _ :: _, _ => cases head

/-- What taking the packet `p` out leaves: a well-formed history with the same
highest packet number, without `p`, holding nothing new, and still holding
every packet `keep` holds of. -/
structure Removed (keep : Packet → Prop) (p : Packet) (h h' : SentPacketHistory) : Prop where
  wellformed : Wellformed h'
  highest : h'.highestPacketNumber = h.highestPacketNumber
  gone : some p ∉ h'.packets
  sub : ∀ q, some q ∈ h'.packets → some q ∈ h.packets
  kept : ∀ q, some q ∈ h.packets → keep q → some q ∈ h'.packets

theorem Removed.weaken {keep keep' : Packet → Prop} {p : Packet} {h h' : SentPacketHistory}
    (removed : Removed keep p h h') (imp : ∀ q, keep' q → keep q) : Removed keep' p h h' :=
  ⟨removed.wellformed, removed.highest, removed.gone, removed.sub,
    fun q held kept => removed.kept q held (imp q kept)⟩

theorem removed_of_clears (wellformed : Wellformed h) {i : Nat} {p : Packet}
    (slot : h.packets[i]? = some (some p)) {keep : Packet → Prop}
    (notOutstanding : ∀ q, ¬ keep q → q.outstanding = false) {k : Nat} {ps : List (Option Packet)}
    (clears : Clears keep (h.packets.set i none) ps) (below : k ≤ i)
    (head : 0 < k → ps.head? = (h.packets.set i none).head?) :
    Removed (fun q => q ≠ p ∧ keep q) p h { h with
      packets := if k = 0 then cleanupStart ps else ps
      numOutstanding := h.numOutstanding - if p.outstanding then 1 else 0 } := by
  have nonempty : h.packets ≠ [] := List.ne_nil_of_mem (List.mem_of_getElem? slot)
  obtain ⟨first, rest, slots, spans⟩ := wellformed.laid.spans nonempty
  have taken : Clears (fun q => q ≠ p) h.packets (h.packets.set i none) := clears_set slot (by simp)
  have spans' : Spans first.packetNumber h.highestPacketNumber ps := clears.spans (taken.spans spans)
  have absent : some p ∉ h.packets.set i none := by
    intro held
    obtain ⟨j, inside, atJ⟩ := List.getElem_of_mem held
    have atJ' : (h.packets.set i none)[j]? = some (some p) := by
      rw [List.getElem?_eq_getElem inside, atJ]
    rw [List.getElem?_set] at atJ'
    split_ifs at atJ' with same
    · simp at atJ'
    · exact same (spans.1.slot_unique slot atJ')
  have counted : numOutstandingIn ps = numOutstandingIn (h.packets.set i none) :=
    clears.numOutstandingIn notOutstanding
  have counts := numOutstandingIn_set slot
  refine ⟨⟨?_, ?_⟩, rfl, ?_, ?_, ?_⟩
  · -- slot 0 is cleared only when the clearing reached it, and then the start goes
    by_cases zero : k = 0
    · simpa only [zero, ↓reduceIte] using spans'.laid_cleanupStart
    · have startKept : ps.head? = some (some first) := by
        rw [head (by omega), List.head?_eq_getElem?, List.getElem?_set, if_neg (by omega), slots]
        rfl
      obtain ⟨rest', psSlots⟩ : ∃ rest', ps = some first :: rest' := by
        cases ps with
        | nil => cases startKept
        | cons slot' rest' => exact ⟨rest', by simp_all⟩
      simp only [zero, ↓reduceIte]
      rw [psSlots] at spans' ⊢
      exact spans'.laid
  · have cleanedUp : numOutstandingIn (if k = 0 then cleanupStart ps else ps) = numOutstandingIn ps := by
      split
      · exact numOutstandingIn_cleanupStart ps
      · rfl
    simp only
    rw [cleanedUp, counted, wellformed.counted]
    split
    · simp_all
      omega
    · simp_all
  · simp only
    split
    · exact fun held => absent (clears.mem (mem_cleanupStart.mp held))
    · exact fun held => absent (clears.mem held)
  · intro q held
    have held' : some q ∈ ps := by
      simp only at held
      split at held
      · exact mem_cleanupStart.mp held
      · exact held
    exact taken.mem (clears.mem held')
  · rintro q held ⟨other, kept⟩
    have held' := clears.keeps (taken.keeps held other) kept
    simp only
    split
    · exact mem_cleanupStart.mpr held'
    · exact held'

theorem remove_of_held (wellformed : Wellformed h) {i : Nat} {p : Packet}
    (slot : h.packets[i]? = some (some p)) :
    ∃ h', remove p.packetNumber h = .ok () h' ∧ Removed (fun q => q ≠ p ∧ q.skippedPacket = false) p h h' := by
  obtain ⟨r, found, -, finds⟩ := getIndex_spec wellformed p.packetNumber
  rw [(finds i p slot).mp rfl] at found
  have inside := (List.getElem?_eq_some_iff.mp slot).1
  obtain ⟨k, ps, loop, below, clears, head⟩ := clearSkippedBelow_spec i { h with
    packets := h.packets.set i none
    numOutstanding := h.numOutstanding - if p.outstanding then 1 else 0 } (by simp; omega)
  have removed := removed_of_clears wellformed slot
    (fun q skipped => Packet.not_outstanding_of_skipped (by simpa using skipped)) clears below
    (by simpa using head)
  refine ⟨_, ?_, removed⟩
  simp only [remove, Call.bind_apply, found, takeOut_of_held wellformed.counted slot, loop]
  have check := removed.wellformed.laid.head_ne_none
  by_cases zero : k = 0
  · simpa [zero] using check
  · simpa [zero] using check

theorem remove_of_nil {pn : PacketNumber} {i : Nat} (found : getIndex pn h = .ok (some i) h)
    (slot : h.packets[i]? = some none) : remove pn h = .panic nilDereferenceMessage := by
  simp [remove, Call.bind_apply, found, takeOut_of_nil slot]

theorem remove_of_absent {pn : PacketNumber} (found : getIndex pn h = .ok none h) :
    remove pn h = .error s!"packet {pn} not found in sent packet history" h := by
  simp [remove, Call.bind_apply, found]

theorem declareLost_of_held (wellformed : Wellformed h) {i : Nat} {p : Packet}
    (slot : h.packets[i]? = some (some p)) :
    ∃ h', declareLost p.packetNumber h = .ok () h' ∧ Removed (fun q => q ≠ p) p h h' := by
  obtain ⟨r, found, -, finds⟩ := getIndex_spec wellformed p.packetNumber
  rw [(finds i p slot).mp rfl] at found
  have removed := removed_of_clears wellformed slot (fun _ never => absurd trivial never)
    (clears_refl (fun _ => True) _) (le_refl i) (fun _ => rfl)
  refine ⟨_, ?_, removed.weaken fun q other => ⟨other, trivial⟩⟩
  simp only [declareLost, Call.bind_apply, found, takeOut_of_held wellformed.counted slot]
  by_cases zero : i = 0 <;> simp [zero]

theorem declareLost_of_nil {pn : PacketNumber} {i : Nat} (found : getIndex pn h = .ok (some i) h)
    (slot : h.packets[i]? = some none) : declareLost pn h = .panic nilDereferenceMessage := by
  simp [declareLost, Call.bind_apply, found, takeOut_of_nil slot]

theorem declareLost_of_absent {pn : PacketNumber} (found : getIndex pn h = .ok none h) :
    declareLost pn h = .ok () h := by
  simp [declareLost, Call.bind_apply, found]

theorem getIndex_cases (wellformed : Wellformed h) (pn : PacketNumber) :
    (getIndex pn h = .ok none h ∧ ∀ p, some p ∈ h.packets → p.packetNumber ≠ pn) ∨
    (∃ i, getIndex pn h = .ok (some i) h ∧ h.packets[i]? = some none ∧
      ∀ p, some p ∈ h.packets → p.packetNumber ≠ pn) ∨
    ∃ i p, getIndex pn h = .ok (some i) h ∧ h.packets[i]? = some (some p) ∧ p.packetNumber = pn := by
  obtain ⟨r, found, inRange, finds⟩ := getIndex_spec wellformed pn
  have located : ∀ p, some p ∈ h.packets → p.packetNumber = pn →
      ∃ j, r = some j ∧ h.packets[j]? = some (some p) := by
    intro p held same
    obtain ⟨j, inside, atJ⟩ := List.getElem_of_mem held
    have atJ' : h.packets[j]? = some (some p) := by rw [List.getElem?_eq_getElem inside, atJ]
    exact ⟨j, (finds j p atJ').mp same, atJ'⟩
  cases r with
  | none =>
      refine .inl ⟨found, fun p held same => ?_⟩
      obtain ⟨j, found', -⟩ := located p held same
      cases found'
  | some i =>
      obtain ⟨slot, atI⟩ : ∃ slot, h.packets[i]? = some slot :=
        ⟨_, List.getElem?_eq_getElem (inRange i rfl)⟩
      cases slot with
      | none =>
          refine .inr (.inl ⟨i, found, atI, fun p held same => ?_⟩)
          obtain ⟨j, found', atJ⟩ := located p held same
          cases found'
          rw [atI] at atJ
          cases atJ
      | some p => exact .inr (.inr ⟨i, p, found, atI, (finds i p atI).mpr rfl⟩)

theorem remove_cases (wellformed : Wellformed h) (pn : PacketNumber) :
    (∃ p, some p ∈ h.packets ∧ p.packetNumber = pn ∧
      ∃ h', remove pn h = .ok () h' ∧ Removed (fun q => q ≠ p ∧ q.skippedPacket = false) p h h') ∨
    (∀ p, some p ∈ h.packets → p.packetNumber ≠ pn) ∧
      (remove pn h = .error s!"packet {pn} not found in sent packet history" h ∨
        remove pn h = .panic nilDereferenceMessage) := by
  rcases getIndex_cases wellformed pn with ⟨found, absent⟩ | ⟨i, found, slot, absent⟩ | ⟨i, p, -, slot, rfl⟩
  · exact .inr ⟨absent, .inl (remove_of_absent found)⟩
  · exact .inr ⟨absent, .inr (remove_of_nil found slot)⟩
  · exact .inl ⟨p, List.mem_of_getElem? slot, rfl, remove_of_held wellformed slot⟩

theorem declareLost_cases (wellformed : Wellformed h) (pn : PacketNumber) :
    (∃ p, some p ∈ h.packets ∧ p.packetNumber = pn ∧
      ∃ h', declareLost pn h = .ok () h' ∧ Removed (fun q => q ≠ p) p h h') ∨
    (∀ p, some p ∈ h.packets → p.packetNumber ≠ pn) ∧
      (declareLost pn h = .ok () h ∨ declareLost pn h = .panic nilDereferenceMessage) := by
  rcases getIndex_cases wellformed pn with ⟨found, absent⟩ | ⟨i, found, slot, absent⟩ | ⟨i, p, -, slot, rfl⟩
  · exact .inr ⟨absent, .inl (declareLost_of_absent found)⟩
  · exact .inr ⟨absent, .inr (declareLost_of_nil found slot)⟩
  · exact .inl ⟨p, List.mem_of_getElem? slot, rfl, declareLost_of_held wellformed slot⟩

theorem remove_ok_iff (wellformed : Wellformed h) (pn : PacketNumber) :
    (∃ h', remove pn h = .ok () h') ↔ ∃ p, some p ∈ h.packets ∧ p.packetNumber = pn := by
  constructor
  · rintro ⟨h', run⟩
    rcases remove_cases wellformed pn with ⟨p, held, same, -⟩ | ⟨-, failed | failed⟩
    · exact ⟨p, held, same⟩
    · rw [failed] at run
      cases run
    · rw [failed] at run
      cases run
  · rintro ⟨p, held, rfl⟩
    obtain ⟨i, inside, atI⟩ := List.getElem_of_mem held
    obtain ⟨h', run, -⟩ := remove_of_held wellformed (by rw [List.getElem?_eq_getElem inside, atI])
    exact ⟨h', run⟩

/-! ### Sending -/

/-- A packet number `checkSequentialPacketNumberUse` lets through: the one after
the highest, or any while nothing has been sent. -/
def Fresh (h : SentPacketHistory) (pn : PacketNumber) : Prop :=
  pn = h.highestPacketNumber + 1 ∨ h.highestPacketNumber = invalidPacketNumber ∧ h.packets = []

theorem checkSequentialPacketNumberUse_of_fresh {pn : PacketNumber} (fresh : Fresh h pn) :
    checkSequentialPacketNumberUse pn h = .ok () h := by
  rcases fresh with next | ⟨none, -⟩
  · simp [checkSequentialPacketNumberUse, next]
  · simp [checkSequentialPacketNumberUse, none]

theorem Laid.snoc {highest : PacketNumber} {ps : List (Option Packet)} (laid : Laid highest ps)
    {pn : PacketNumber} (next : ps = [] ∨ pn = highest + 1) {slot : Option Packet}
    (numbered : ∀ q, slot = some q → q.packetNumber = pn) (filled : ps = [] → slot ≠ none) :
    Laid pn (ps ++ [slot]) := by
  match ps, laid, slot with
  | [], _, none => exact absurd rfl (filled rfl)
  | [], _, some q =>
      have number := numbered q rfl
      refine ⟨fun i p atI => ?_, by simp [number]⟩
      cases i with
      | zero =>
          cases atI
          simp
      | succ i => simp at atI
  | some first :: rest, spans, slot =>
      have pnNext : pn = highest + 1 := next.resolve_left (List.cons_ne_nil _ _)
      have spans' : Spans first.packetNumber pn (some first :: rest ++ [slot]) := by
        refine ⟨spans.1.snoc fun q same => ?_, ?_⟩
        · have := spans.2
          rw [numbered q same]
          unfold PacketNumber at *
          omega
        · have := spans.2
          simp only [List.length_append, List.length_cons, List.length_nil] at this ⊢
          unfold PacketNumber at *
          omega
      exact spans'

theorem numOutstandingIn_snoc (ps : List (Option Packet)) (slot : Option Packet) :
    numOutstandingIn (ps ++ [slot]) = numOutstandingIn ps + if slot.any Packet.outstanding then 1 else 0 := by
  simp only [numOutstandingIn, List.countP_append, List.countP_singleton]

theorem wellformed_snoc (wellformed : Wellformed h) {pn : PacketNumber} (fresh : Fresh h pn)
    (slot : Option Packet) (numbered : ∀ q, slot = some q → q.packetNumber = pn)
    (filled : h.packets = [] → slot ≠ none) :
    Wellformed { h with
      highestPacketNumber := pn
      packets := h.packets ++ [slot]
      numOutstanding := h.numOutstanding + if slot.any Packet.outstanding then 1 else 0 } := by
  refine ⟨wellformed.laid.snoc ?_ numbered filled, ?_⟩
  · rcases fresh with next | ⟨-, empty⟩
    · exact .inr next
    · exact .inl empty
  · simp only [numOutstandingIn_snoc, wellformed.counted]
    split <;> simp

theorem skippedPacket_of_fresh (wellformed : Wellformed h) {pn : PacketNumber} (fresh : Fresh h pn) :
    ∃ h', skippedPacket pn h = .ok () h' ∧ Wellformed h' ∧ h'.highestPacketNumber = pn := by
  have kept := wellformed_snoc wellformed fresh (some { packetNumber := pn, skippedPacket := true })
    (fun q same => by cases same; rfl) (fun _ => Option.some_ne_none _)
  refine ⟨_, ?_, kept, rfl⟩
  simp only [skippedPacket, Call.bind_apply, checkSequentialPacketNumberUse_of_fresh fresh, Call.modify_apply]
  simp [Packet.outstanding]

theorem sentNonAckElicitingPacket_of_fresh (wellformed : Wellformed h) {pn : PacketNumber}
    (fresh : Fresh h pn) :
    ∃ h', sentNonAckElicitingPacket pn h = .ok () h' ∧ Wellformed h' ∧ h'.highestPacketNumber = pn := by
  by_cases empty : h.packets = []
  · -- nothing is appended to a history that holds nothing
    refine ⟨{ h with highestPacketNumber := pn }, ?_, ⟨?_, ?_⟩, rfl⟩
    · simp [sentNonAckElicitingPacket, Call.bind_apply, checkSequentialPacketNumberUse_of_fresh fresh, empty]
    · show Laid pn h.packets
      rw [empty]
      trivial
    · exact wellformed.counted
  · have kept := wellformed_snoc wellformed fresh none (fun _ never => by cases never)
      (fun nonempty => absurd nonempty empty)
    simp only [Option.any_none, Bool.false_eq_true, ↓reduceIte, Int.add_zero] at kept
    refine ⟨_, ?_, kept, rfl⟩
    simp [sentNonAckElicitingPacket, Call.bind_apply, checkSequentialPacketNumberUse_of_fresh fresh,
      List.length_pos_iff.mpr empty]

theorem sentAckElicitingPacket_of_fresh (wellformed : Wellformed h) {p : Packet}
    (fresh : Fresh h p.packetNumber) :
    ∃ h', sentAckElicitingPacket p h = .ok () h' ∧ Wellformed h' ∧ h'.highestPacketNumber = p.packetNumber := by
  have kept := wellformed_snoc wellformed fresh (some p) (fun q same => by cases same; rfl)
    (fun _ => Option.some_ne_none _)
  refine ⟨_, ?_, kept, rfl⟩
  simp only [sentAckElicitingPacket, Call.bind_apply, checkSequentialPacketNumberUse_of_fresh fresh,
    Call.modify_apply, Option.any_some]
  split <;> simp_all

end Calls

/-! ### `FirstOutstanding` -/

theorem findSome?_eq_find? : ∀ ps : List (Option Packet),
    ps.findSome? (fun slot => slot.filter Packet.outstanding) = ps.reduceOption.find? Packet.outstanding
  | [] => rfl
  | none :: ps => by
      rw [List.reduceOption_cons_of_none, ← findSome?_eq_find? ps]
      rfl
  | some p :: ps => by
      rw [List.reduceOption_cons_of_some, List.find?_cons, ← findSome?_eq_find? ps]
      cases outstanding : p.outstanding <;> simp [Option.filter, outstanding]

theorem find?_eq_some_iff_lowest {ps : List Packet} (increasing : ps.Pairwise fun p q => p.packetNumber < q.packetNumber)
    (test : Packet → Bool) (p : Packet) :
    ps.find? test = some p ↔ p ∈ ps ∧ test p ∧ ∀ q ∈ ps, test q → p.packetNumber ≤ q.packetNumber := by
  have lowest : ∀ p, ps.find? test = some p → ∀ q ∈ ps, test q → p.packetNumber ≤ q.packetNumber := by
    intro p found q mem passes
    obtain ⟨-, before, after, split, failing⟩ := List.find?_eq_some_iff_append.mp found
    rw [split] at mem increasing
    rcases List.mem_append.mp mem with earlier | later
    · simp_all
    · rcases List.mem_cons.mp later with rfl | above
      · exact Int.le_refl _
      · have tail := (List.pairwise_append.mp increasing).2.1
        exact Int.le_of_lt (List.rel_of_pairwise_cons tail above)
  constructor
  · intro found
    exact ⟨List.mem_of_find?_eq_some found, List.find?_some found, lowest p found⟩
  · rintro ⟨mem, passes, below⟩
    cases found : ps.find? test with
    | none => exact absurd passes (List.find?_eq_none.mp found p mem)
    | some p' =>
        obtain ⟨-, before, after, split, failing⟩ := List.find?_eq_some_iff_append.mp found
        have lowerFound := below p' (List.mem_of_find?_eq_some found) (List.find?_some found)
        rw [split] at mem increasing
        have tail := (List.pairwise_append.mp increasing).2.1
        rcases List.mem_append.mp mem with earlier | later
        · simp_all
        · rcases List.mem_cons.mp later with rfl | above
          · rfl
          · have := List.rel_of_pairwise_cons tail above
            unfold PacketNumber at *
            omega

theorem Laid.numbered {highest : PacketNumber} {ps : List (Option Packet)} (laid : Laid highest ps) :
    ∃ base, Numbered base ps := by
  match ps, laid with
  | [], _ => exact ⟨0, fun _ _ slot => by simp at slot⟩
  | some first :: _, spans => exact ⟨_, spans.1⟩

theorem firstOutstanding_eq_some_iff {h : SentPacketHistory} (wellformed : Wellformed h) (p : Packet) :
    h.firstOutstanding = some p ↔ some p ∈ h.packets ∧ p.outstanding ∧
      ∀ q, some q ∈ h.packets → q.outstanding → p.packetNumber ≤ q.packetNumber := by
  obtain ⟨base, numbered⟩ := wellformed.laid.numbered
  have lowest := find?_eq_some_iff_lowest numbered.pairwise Packet.outstanding p
  simp only [List.reduceOption_mem_iff] at lowest
  rw [← lowest, ← findSome?_eq_find?, firstOutstanding, hasOutstandingPackets, wellformed.counted]
  by_cases none : numOutstandingIn h.packets = 0
  · -- nothing outstanding: both sides fail
    have noneFound : h.packets.reduceOption.find? Packet.outstanding = Option.none := by
      apply List.find?_eq_none.mpr
      intro q mem passes
      have : 0 < numOutstandingIn h.packets :=
        List.countP_pos_iff.mpr ⟨some q, List.reduceOption_mem_iff.mp mem, by simpa using passes⟩
      omega
    simp [none, findSome?_eq_find?, noneFound]
  · simp [none]

/-! ## Runs of calls -/

/-- The calls a history gets. -/
inductive Op where
  | skippedPacket (pn : PacketNumber)
  | sentNonAckElicitingPacket (pn : PacketNumber)
  | sentAckElicitingPacket (p : Packet)
  | remove (pn : PacketNumber)
  | declareLost (pn : PacketNumber)
deriving DecidableEq, Repr

def Op.call : Op → Call SentPacketHistory Unit
  | .skippedPacket pn => SentPacketHistory.skippedPacket pn
  | .sentNonAckElicitingPacket pn => SentPacketHistory.sentNonAckElicitingPacket pn
  | .sentAckElicitingPacket p => SentPacketHistory.sentAckElicitingPacket p
  | .remove pn => SentPacketHistory.remove pn
  | .declareLost pn => SentPacketHistory.declareLost pn

/-- The packet number a call sends, if it sends one. -/
def Op.sent? : Op → Option PacketNumber
  | .skippedPacket pn | .sentNonAckElicitingPacket pn => some pn
  | .sentAckElicitingPacket p => some p.packetNumber
  | .remove _ | .declareLost _ => none

/-- Calls one after another.  An error goes back to the caller, which goes on
with the history; a panic ends the run. -/
def run : List Op → SentPacketHistory → Result SentPacketHistory Unit
  | [], h => .ok () h
  | op :: ops, h =>
      match op.call h with
      | .ok () h' => run ops h'
      | .error _ h' => run ops h'
      | .panic m => .panic m

/-- The packet numbers the calls send follow each other. -/
def Consecutive (ops : List Op) : Prop :=
  (ops.filterMap Op.sent?).IsChain fun pn next => next = pn + 1

instance (ops : List Op) : Decidable (Consecutive ops) :=
  inferInstanceAs (Decidable (List.IsChain _ _))

/-- The next number the calls send is fresh for `h`. -/
def NextFresh (h : SentPacketHistory) (ops : List Op) : Prop :=
  ∀ pn ∈ (ops.filterMap Op.sent?).head?, Fresh h pn

theorem Consecutive.tail {op : Op} {ops : List Op} (consecutive : Consecutive (op :: ops)) : Consecutive ops := by
  unfold Consecutive at *
  cases sent : op.sent? with
  | none => simpa [sent] using consecutive
  | some pn =>
      simp only [List.filterMap_cons, sent] at consecutive
      exact consecutive.tail

theorem nextFresh_of_sent {op : Op} {ops : List Op} {pn : PacketNumber} (sent : op.sent? = some pn)
    (consecutive : Consecutive (op :: ops)) {h : SentPacketHistory} (highest : h.highestPacketNumber = pn) :
    NextFresh h ops := by
  intro next first
  unfold Consecutive at consecutive
  simp only [List.filterMap_cons, sent] at consecutive
  obtain ⟨rest, split⟩ : ∃ rest, ops.filterMap Op.sent? = next :: rest := by
    cases found : ops.filterMap Op.sent? with
    | nil => simp [found] at first
    | cons head rest => simp_all
  rw [split, List.isChain_cons_cons] at consecutive
  exact .inl (consecutive.1.trans (by rw [highest]))

theorem NextFresh.of_kept {h h' : SentPacketHistory} {op : Op} {ops : List Op}
    (fresh : NextFresh h (op :: ops)) (sent : op.sent? = none)
    (highest : h'.highestPacketNumber = h.highestPacketNumber) (empty : h.packets = [] → h'.packets = []) :
    NextFresh h' ops := by
  intro pn first
  have first' : pn ∈ ((op :: ops).filterMap Op.sent?).head? := by simpa [sent] using first
  rcases fresh pn first' with next | ⟨none, nothing⟩
  · exact .inl (highest ▸ next)
  · exact .inr ⟨highest ▸ none, empty nothing⟩

theorem Removed.empty {keep : Packet → Prop} {p : Packet} {h h' : SentPacketHistory}
    (removed : Removed keep p h h') (nothing : h.packets = []) : h'.packets = [] := by
  have laid := removed.wellformed.laid
  match slots : h'.packets, laid with
  | [], _ => rfl
  | some q :: _, _ =>
      have := removed.sub q (by rw [slots]; exact List.mem_cons_self)
      rw [nothing] at this
      cases this

/-- What one call leaves, as `run` takes it: a well-formed history with the
next number still fresh, or a panic on a nil slot. -/
def Lands (ops : List Op) : Result SentPacketHistory Unit → Prop
  | .ok _ h' | .error _ h' => Wellformed h' ∧ NextFresh h' ops
  | .panic m => m = nilDereferenceMessage

theorem call_lands (op : Op) (ops : List Op) {h : SentPacketHistory} (wellformed : Wellformed h)
    (fresh : NextFresh h (op :: ops)) (consecutive : Consecutive (op :: ops)) : Lands ops (op.call h) := by
  cases op with
  | skippedPacket pn =>
      obtain ⟨h', run, kept, highest⟩ := skippedPacket_of_fresh wellformed (fresh pn rfl)
      rw [Op.call, run]
      exact ⟨kept, nextFresh_of_sent rfl consecutive highest⟩
  | sentNonAckElicitingPacket pn =>
      obtain ⟨h', run, kept, highest⟩ := sentNonAckElicitingPacket_of_fresh wellformed (fresh pn rfl)
      rw [Op.call, run]
      exact ⟨kept, nextFresh_of_sent rfl consecutive highest⟩
  | sentAckElicitingPacket p =>
      obtain ⟨h', run, kept, highest⟩ := sentAckElicitingPacket_of_fresh wellformed (fresh p.packetNumber rfl)
      rw [Op.call, run]
      exact ⟨kept, nextFresh_of_sent rfl consecutive highest⟩
  | remove pn =>
      rw [Op.call]
      rcases remove_cases wellformed pn with ⟨p, -, -, h', run, removed⟩ | ⟨-, failed | failed⟩
      · rw [run]
        exact ⟨removed.wellformed, fresh.of_kept rfl removed.highest removed.empty⟩
      · rw [failed]
        exact ⟨wellformed, fresh.of_kept rfl rfl id⟩
      · rw [failed]
        rfl
  | declareLost pn =>
      rw [Op.call]
      rcases declareLost_cases wellformed pn with ⟨p, -, -, h', run, removed⟩ | ⟨-, kept | failed⟩
      · rw [run]
        exact ⟨removed.wellformed, fresh.of_kept rfl removed.highest removed.empty⟩
      · rw [kept]
        exact ⟨wellformed, fresh.of_kept rfl rfl id⟩
      · rw [failed]
        rfl

theorem run_lands : ∀ (ops : List Op) {h : SentPacketHistory}, Wellformed h → NextFresh h ops →
    Consecutive ops →
      (∀ m, run ops h = .panic m → m = nilDereferenceMessage) ∧
      ∀ h', run ops h = .ok () h' → Wellformed h'
  | [], h, wellformed, _, _ => by
      refine ⟨fun _ done => ?_, fun _ done => ?_⟩
      · cases done
      · cases done
        exact wellformed
  | op :: ops, h, wellformed, fresh, consecutive => by
      have lands := call_lands op ops wellformed fresh consecutive
      simp only [run]
      -- the rest of the run starts where the call landed
      split
      · next h' called =>
          rw [called] at lands
          exact run_lands ops lands.1 lands.2 consecutive.tail
      · next h' called =>
          rw [called] at lands
          exact run_lands ops lands.1 lands.2 consecutive.tail
      · next m called =>
          rw [called] at lands
          exact ⟨fun _ done => by cases done; exact lands, fun _ done => by cases done⟩

/-- The representation invariant of the history over every run of calls that
send consecutive packet numbers, with `Remove` and `DeclareLost` of any packet
numbers in between: the only panic is the nil dereference of `Remove` or
`DeclareLost` on a nil slot (never "remove failed" nor a negative
`numOutstanding`), and every history reached has a non-nil first slot, holds
each packet at its number's distance from the first one, counts its
outstanding packets in `numOutstanding`, lets `Remove(pn)` return without an
error exactly when it holds a packet numbered `pn`, and has `FirstOutstanding`
return the lowest outstanding packet. -/
theorem sentPacketHistory_run (ops : List Op) (consecutive : Consecutive ops) :
    (∀ m, run ops newSentPacketHistory = .panic m → m = nilDereferenceMessage) ∧
    ∀ h, run ops newSentPacketHistory = .ok () h →
      (∀ slot ∈ h.packets.head?, slot ≠ none) ∧
      (∀ first, h.packets.head? = some (some first) →
        ∀ (i : Nat) (p : Packet), h.packets[i]? = some (some p) → p.packetNumber = first.packetNumber + i) ∧
      h.numOutstanding = numOutstandingIn h.packets ∧
      (∀ pn, (∃ h', remove pn h = .ok () h') ↔ ∃ p, some p ∈ h.packets ∧ p.packetNumber = pn) ∧
      ∀ p, h.firstOutstanding = some p ↔ some p ∈ h.packets ∧ p.outstanding ∧
        ∀ q, some q ∈ h.packets → q.outstanding → p.packetNumber ≤ q.packetNumber := by
  have start : NextFresh newSentPacketHistory ops := fun _ _ => .inr ⟨rfl, rfl⟩
  obtain ⟨panics, reached⟩ := run_lands ops wellformed_newSentPacketHistory start consecutive
  refine ⟨panics, fun h done => ?_⟩
  have wellformed := reached h done
  refine ⟨?_, ?_, wellformed.counted, remove_ok_iff wellformed, firstOutstanding_eq_some_iff wellformed⟩
  · intro slot first
    have laid := wellformed.laid
    match slots : h.packets, laid with
    | [], _ =>
        rw [slots] at first
        cases first
    | some _ :: _, _ =>
        rw [slots] at first
        cases first
        exact Option.some_ne_none _
  · intro first head i p slot
    have laid := wellformed.laid
    match slots : h.packets, laid with
    | [], _ =>
        rw [slots] at head
        cases head
    | some first' :: _, spans =>
        rw [slots] at head slot
        cases head
        exact spans.1 i p slot

/-- Packet 1 was not ack-eliciting, so `Remove(1)` finds a nil slot: the run
ends in the nil dereference and in no other panic. -/
theorem sentPacketHistory_run_nilSlot :
    Consecutive [.sentAckElicitingPacket { packetNumber := 0 }, .sentNonAckElicitingPacket 1, .skippedPacket 2,
      .sentAckElicitingPacket { packetNumber := 3 }, .remove 3, .remove 1] ∧
    ∀ m, run [.sentAckElicitingPacket { packetNumber := 0 }, .sentNonAckElicitingPacket 1, .skippedPacket 2,
      .sentAckElicitingPacket { packetNumber := 3 }, .remove 3, .remove 1] newSentPacketHistory = .panic m →
        m = nilDereferenceMessage :=
  ⟨by decide, (sentPacketHistory_run _ (by decide)).1⟩

end SentPacketHistory

end QuicFec.Ackhandler
