import QuicFec.Fec.Block
import QuicFec.Lib.ByteXor

/-! # The XOR scheme

`internal/fec/xor.go`: the single repair symbol of a block is the XOR of its
source payloads, each followed by its two-byte length at offset
`biggestSourceSymbolLenSoFar`; one missing payload is recovered by XORing the
repair payload with the payloads present.  Every index and slice expression is
bounds-checked as Go does, so a crafted REPAIR frame shows up as a panic.

Go ranges over the payload maps in random order; XOR does not depend on it, and
the model takes the map's own order. -/
set_option autoImplicit false

namespace QuicFec.Fec

open Go QuicFec.Protocol QuicFec.Wire ByteXor

/-- XOR `payload` into the front of `acc`, byte by byte. -/
def xorInto : List UInt8 → List UInt8 → List UInt8
  | a :: rest, p :: ps => (a ^^^ p) :: xorInto rest ps
  | acc, [] => acc
  | [], _ :: _ => []

@[simp] theorem length_xorInto (acc payload : List UInt8) :
    (xorInto acc payload).length = acc.length := by
  induction acc generalizing payload with
  | nil => cases payload <;> rfl
  | cons a rest ih =>
      cases payload with
      | nil => rfl
      | cons p ps => simp [xorInto, ih]

theorem xorInto_eq_xorWith (acc payload : List UInt8) (fits : payload.length ≤ acc.length) :
    xorInto acc payload = xorWith acc (fun i => payload.getD i 0) := by
  induction acc generalizing payload with
  | nil =>
      rw [List.length_eq_zero_iff.mp (Nat.le_zero.mp fits)]
      rfl
  | cons a rest ih =>
      cases payload with
      | nil => simpa [xorInto] using (xorWith_zero (a :: rest)).symm
      | cons p ps =>
          simp only [List.length_cons, Nat.add_le_add_iff_right] at fits
          simp [xorInto, xorWith, List.mapIdx_cons, ih ps fits]

namespace XorScheme

variable {σ : Type}

/-- `byte(uint16(n) >> 8)`, the high byte of a payload length. -/
def lengthHighByte (n : Nat) : UInt8 := ((UInt16.ofNat n) >>> 8).toUInt8

/-- `byte(uint16(n) & 0xFF)`, the low byte of a payload length. -/
def lengthLowByte (n : Nat) : UInt8 := ((UInt16.ofNat n) &&& 0xFF).toUInt8

theorem lengthBytes_toNat {n : Nat} (short : n < 2 ^ 16) :
    (lengthHighByte n).toNat * 256 + (lengthLowByte n).toNat = n := by
  simp only [lengthHighByte, lengthLowByte, UInt16.toNat_toUInt8, UInt16.toNat_shiftRight,
    UInt16.toNat_and, UInt16.toNat_ofNat', Nat.shiftRight_eq_div_pow,
    show UInt16.toNat 8 % 16 = 8 from rfl, show UInt16.toNat 255 = 2 ^ 8 - 1 from rfl,
    Nat.and_two_pow_sub_one_eq_mod]
  omega

/-- What `xor` adds to the buffer for one source payload: the payload from
offset 0, and its length, high byte first, at `biggest`. -/
def taggedPayload (biggest : Nat) (payload : Slice UInt8) (i : Nat) : UInt8 :=
  payload.data.getD i 0 ^^^ (if i = biggest then lengthHighByte payload.len else 0) ^^^
    (if i = biggest + 1 then lengthLowByte payload.len else 0)

/-- `for i := 0; i < len(payload); i++ { xorSoFar[i] ^= payload[i] }`: the
loop panics at the first index past `len(xorSoFar)`, and a panic discards what
the earlier iterations wrote. -/
def xorPayload (xorSoFar payload : List UInt8) : Call σ (List UInt8) :=
  if payload.length ≤ xorSoFar.length then Call.pure (xorInto xorSoFar payload)
  else Call.panic "runtime error: index out of range"

/-- `xorScheme.xor`: XOR the payload, then its `uint16` length at
`biggestSourceSymbolLenSoFar`. -/
def xor (xorSoFar : List UInt8) (payload : Slice UInt8) (biggest : Int) :
    Call σ (List UInt8) := do
  let xorSoFar ← xorPayload xorSoFar payload.data
  let payloadLen : UInt16 := UInt16.ofNat payload.len
  let highByte : UInt8 := (payloadLen >>> 8).toUInt8
  let lowByte : UInt8 := (payloadLen &&& 0xFF).toUInt8
  let high ← index xorSoFar biggest
  let xorSoFar ← setIndex xorSoFar biggest (high ^^^ highByte)
  let low ← index xorSoFar (biggest + 1)
  setIndex xorSoFar (biggest + 1) (low ^^^ lowByte)

section Tagged

variable {biggest : Nat} {payload : Slice UInt8}

theorem taggedPayload_of_lt (short : payload.len ≤ biggest) {i : Nat} (below : i < payload.data.length) :
    taggedPayload biggest payload i = payload.data[i] := by
  have length : payload.len = payload.data.length := rfl
  have notHigh : i ≠ biggest := by omega
  have notLow : i ≠ biggest + 1 := by omega
  simp [taggedPayload, notHigh, notLow, List.getD_eq_getElem?_getD, List.getElem?_eq_getElem below]

theorem taggedPayload_biggest (short : payload.len ≤ biggest) :
    taggedPayload biggest payload biggest = lengthHighByte payload.len := by
  have past : payload.data.length ≤ biggest := short
  simp [taggedPayload, List.getD_eq_getElem?_getD, List.getElem?_eq_none past]

theorem taggedPayload_biggest_succ (short : payload.len ≤ biggest) :
    taggedPayload biggest payload (biggest + 1) = lengthLowByte payload.len := by
  have past : payload.data.length ≤ biggest + 1 := Nat.le_succ_of_le short
  simp [taggedPayload, List.getD_eq_getElem?_getD, List.getElem?_eq_none past]

theorem taggedPayload_eq_zero (short : payload.len ≤ biggest) {i : Nat} (past : biggest + 2 ≤ i) :
    taggedPayload biggest payload i = 0 := by
  have notHigh : i ≠ biggest := by omega
  have notLow : i ≠ biggest + 1 := by omega
  have beyond : payload.data.length ≤ i := by
    have : payload.len = payload.data.length := rfl
    omega
  simp [taggedPayload, notHigh, notLow, List.getD_eq_getElem?_getD, List.getElem?_eq_none beyond]

end Tagged

theorem xorPayload_apply (xorSoFar payload : List UInt8) (fits : payload.length ≤ xorSoFar.length) (s : σ) :
    xorPayload xorSoFar payload s = .ok (xorWith xorSoFar (fun i => payload.getD i 0)) s := by
  rw [xorPayload, if_pos fits, xorInto_eq_xorWith xorSoFar payload fits]
  rfl

theorem xorAssign_apply (xorSoFar : List UInt8) (n : Nat) (inside : n < xorSoFar.length) (x : UInt8) (s : σ) :
    ((index xorSoFar n : Call σ UInt8) >>= fun v => setIndex xorSoFar n (v ^^^ x)) s =
      .ok (xorWith xorSoFar (fun i => if i = n then x else 0)) s := by
  simp only [Call.bind_apply, index_apply_of_lt xorSoFar n inside, setIndex_apply_of_lt _ n inside]
  rw [List.get_eq_getElem, set_xor_eq_xorWith xorSoFar n inside]

theorem xorAssign_bind_apply {α : Type} (xorSoFar : List UInt8) (n : Nat) (inside : n < xorSoFar.length)
    (x : UInt8) (k : List UInt8 → Call σ α) (s : σ) :
    ((index xorSoFar n : Call σ UInt8) >>= fun v => setIndex xorSoFar n (v ^^^ x) >>= k) s =
      k (xorWith xorSoFar (fun i => if i = n then x else 0)) s := by
  simp only [Call.bind_apply, index_apply_of_lt xorSoFar n inside, setIndex_apply_of_lt _ n inside]
  rw [List.get_eq_getElem, set_xor_eq_xorWith xorSoFar n inside]

theorem xor_apply (xorSoFar : List UInt8) (payload : Slice UInt8) (biggest : Nat)
    (fits : payload.len ≤ xorSoFar.length) (room : biggest + 1 < xorSoFar.length) (s : σ) :
    xor xorSoFar payload biggest s = .ok (xorWith xorSoFar (taggedPayload biggest payload)) s := by
  have next : (biggest : Int) + 1 = ((biggest + 1 : Nat) : Int) := by push_cast; rfl
  unfold xor
  rw [Call.bind_of_ok (xorPayload_apply xorSoFar payload.data fits s),
    xorAssign_bind_apply _ biggest (by simp; omega), next, xorAssign_apply _ (biggest + 1) (by simp; omega),
    xorWith_xorWith, xorWith_xorWith]
  congr 2
  funext i
  simp only [taggedPayload, lengthHighByte, lengthLowByte, UInt8.xor_assoc]

def xorRepair (xorSoFar payload : List UInt8) : Call σ (List UInt8) :=
  xorPayload xorSoFar payload

/-- Fold `xor` over the source payloads of a block. -/
def xorSources (biggest : Int) : List UInt8 → List (Σ _ : SourceSymbolID, Slice UInt8) →
    Call σ (List UInt8)
  | acc, [] => Call.pure acc
  | acc, entry :: rest => do
      let acc ← xor acc entry.2 biggest
      xorSources biggest acc rest

/-- Fold `xorRepair` over the repair payloads of a block. -/
def xorRepairs : List UInt8 → List (Σ _ : ParityID, Slice UInt8) → Call σ (List UInt8)
  | acc, [] => Call.pure acc
  | acc, entry :: rest => do
      let acc ← xorRepair acc entry.2.data
      xorRepairs acc rest

/-- `make([]byte, n)`, which panics for a negative length. -/
def makeBytes (n : Int) : Call σ (List UInt8) :=
  if 0 ≤ n then Call.pure (List.replicate n.toNat 0)
  else Call.panic "runtime error: makeslice: len out of range"

/-- The XOR of the tagged source payloads of a list of map entries. -/
def taggedSum (biggest : Nat) (entries : List (Σ _ : SourceSymbolID, Slice UInt8)) : Nat → UInt8 :=
  xorSum (entries.map fun entry => taggedPayload biggest entry.2)

/-- The XOR of the repair payloads of a list of map entries. -/
def repairSum (entries : List (Σ _ : ParityID, Slice UInt8)) : Nat → UInt8 :=
  xorSum (entries.map fun entry i => entry.2.data.getD i 0)

theorem xorSources_apply (biggest : Nat) (acc : List UInt8) (entries : List (Σ _ : SourceSymbolID, Slice UInt8))
    (fits : ∀ entry ∈ entries, entry.2.len ≤ acc.length) (room : biggest + 1 < acc.length) (s : σ) :
    xorSources biggest acc entries s = .ok (xorWith acc (taggedSum biggest entries)) s := by
  induction entries generalizing acc with
  | nil =>
      rw [show taggedSum biggest [] = fun _ => 0 from rfl, xorWith_zero]
      rfl
  | cons entry rest ih =>
      have first := xor_apply acc entry.2 biggest (fits entry List.mem_cons_self) room s
      rw [xorSources, Call.bind_of_ok first,
        ih _ (fun other member => by simpa using fits other (List.mem_cons_of_mem entry member)) (by simpa),
        xorWith_xorWith]
      rfl

theorem xorRepairs_apply (acc : List UInt8) (entries : List (Σ _ : ParityID, Slice UInt8))
    (fits : ∀ entry ∈ entries, entry.2.len ≤ acc.length) (s : σ) :
    xorRepairs acc entries s = .ok (xorWith acc (repairSum entries)) s := by
  induction entries generalizing acc with
  | nil =>
      rw [show repairSum [] = fun _ => 0 from rfl, xorWith_zero]
      rfl
  | cons entry rest ih =>
      have first := xorPayload_apply (σ := σ) acc entry.2.data (fits entry List.mem_cons_self) s
      rw [xorRepairs, xorRepair, Call.bind_of_ok first,
        ih _ (fun other member => by simpa using fits other (List.mem_cons_of_mem entry member)),
        xorWith_xorWith]
      rfl

theorem makeBytes_apply (n : Nat) (s : σ) : makeBytes n s = .ok (List.replicate n 0) s := by
  rw [makeBytes, if_pos (Int.natCast_nonneg n), Int.toNat_natCast]
  rfl

def repairSymbols : Call Block (List RepairFrame) := do
  let b ← Call.get
  if !b.isComplete then
    Call.fail "block does not have enough source symbols to generate repair symbols"
  else if b.totNumRepairSymbols ≠ 1 then
    let received := b.totNumRepairSymbols
    Call.fail s!"xor only supports 1 repair symbol. Expected 1, received {received}"
  else if b.biggestSourceSymbolLenSoFar > maxFECPacketBufferSize then
    Call.fail "source symbol payload len is greater is too big for FEC headers"
  else
    let repairPayloadLen := repairPayloadMetadataLen + b.biggestSourceSymbolLenSoFar
    let xorSoFar ← makeBytes repairPayloadLen
    let xorSoFar ← xorSources b.biggestSourceSymbolLenSoFar xorSoFar b.ssidToSourcePayload.entries
    return [⟨⟨b.id, 0⟩, Slice.ofList xorSoFar⟩]

theorem repairSymbols_apply (b : Block) (complete : b.isComplete = true) (oneRepair : b.totNumRepairSymbols = 1)
    {biggest : Nat} (isBiggest : b.biggestSourceSymbolLenSoFar = biggest) (small : biggest ≤ maxFECPacketBufferSize)
    (fits : ∀ entry ∈ b.ssidToSourcePayload.entries, entry.2.len ≤ biggest) :
    repairSymbols b = .ok [⟨⟨b.id, 0⟩, Slice.ofList (xorWith (List.replicate (biggest + 2) 0)
      (taggedSum biggest b.ssidToSourcePayload.entries))⟩] b := by
  have length : (repairPayloadMetadataLen : Int) + b.biggestSourceSymbolLenSoFar = ((biggest + 2 : Nat) : Int) := by
    rw [isBiggest, repairPayloadMetadataLen]
    push_cast
    omega
  have notTooBig : ¬ b.biggestSourceSymbolLenSoFar > maxFECPacketBufferSize := by
    rw [isBiggest]
    omega
  have sources := xorSources_apply (σ := Block) biggest (List.replicate (biggest + 2) 0)
    b.ssidToSourcePayload.entries (fun entry member => by have := fits entry member; simp; omega)
    (by simp) b
  simp only [repairSymbols, Call.bind_apply, Call.get_apply, complete, oneRepair, Bool.not_true,
    Bool.false_eq_true, ne_eq, not_true_eq_false, notTooBig, ite_false, Call.ite_apply]
  rw [length, makeBytes_apply, isBiggest]
  simp only [sources, Call.pure_apply]

/-- `for ssid := b.smallestSSID; ssid <= b.largestSSID; ssid++`: give every
missing SSID of the range the recovered payload.  The loop runs `count` times;
a block whose range wraps past `2^64 - 1` is not reached from 62-bit ids. -/
def fillMissing (recovered : Slice UInt8) :
    Nat → SourceSymbolID → AList (fun _ : SourceSymbolID => Slice UInt8) →
      AList (fun _ : SourceSymbolID => Slice UInt8)
  | 0, _, payloads => payloads
  | count + 1, ssid, payloads =>
      fillMissing recovered count (ssid + 1)
        (if ssid ∈ payloads then payloads else payloads.insert ssid recovered)

theorem add_one_add_ofNat (ssid : SourceSymbolID) (i : Nat) :
    ssid + 1 + UInt64.ofNat i = ssid + UInt64.ofNat (i + 1) := by
  rw [UInt64.ofNat_add, UInt64.add_assoc, UInt64.add_comm 1]
  rfl

theorem fillMissing_of_forall_mem (recovered : Slice UInt8) :
    ∀ (count : Nat) (ssid : SourceSymbolID) (payloads : AList (fun _ : SourceSymbolID => Slice UInt8)),
      (∀ i < count, ssid + UInt64.ofNat i ∈ payloads) → fillMissing recovered count ssid payloads = payloads
  | 0, _, _, _ => rfl
  | count + 1, ssid, payloads, present => by
      have first : ssid ∈ payloads := by simpa using present 0 (by omega)
      rw [fillMissing, if_pos first]
      exact fillMissing_of_forall_mem recovered count (ssid + 1) payloads fun i below => by
        rw [add_one_add_ofNat]
        exact present (i + 1) (by omega)

theorem fillMissing_eq_insert (recovered : Slice UInt8) :
    ∀ (count missing : Nat) (ssid : SourceSymbolID) (payloads : AList (fun _ : SourceSymbolID => Slice UInt8)),
      missing < count → (∀ i < count, i ≠ missing → ssid + UInt64.ofNat i ∈ payloads) →
      ssid + UInt64.ofNat missing ∉ payloads →
      fillMissing recovered count ssid payloads = payloads.insert (ssid + UInt64.ofNat missing) recovered
  | 0, _, _, _, below, _, _ => absurd below (Nat.not_lt_zero _)
  | count + 1, 0, ssid, payloads, _, present, absent => by
      have first : ssid ∉ payloads := by simpa using absent
      rw [fillMissing, if_neg first, fillMissing_of_forall_mem recovered count (ssid + 1)]
      · simp
      · intro i below
        rw [add_one_add_ofNat]
        exact (AList.mem_insert _).mpr (.inr (present (i + 1) (by omega) (by omega)))
  | count + 1, missing + 1, ssid, payloads, below, present, absent => by
      have first : ssid ∈ payloads := by simpa using present 0 (by omega) (by omega)
      rw [fillMissing, if_pos first, fillMissing_eq_insert recovered count missing (ssid + 1) payloads (by omega),
        add_one_add_ofNat]
      · intro i inside other
        rw [add_one_add_ofNat]
        exact present (i + 1) (by omega) (by omega)
      · rw [add_one_add_ofNat]
        exact absent

/-- How many times the SSID loop of `recoverSymbolPayloads` runs. -/
def ssidLoopCount (b : Block) : Nat :=
  if b.smallestSSID ≤ b.largestSSID then (b.largestSSID - b.smallestSSID).toNat + 1 else 0

theorem ssidLoopCount_of_sameRange {b b' : Block} (same : Block.SameRange b b') :
    ssidLoopCount b' = ssidLoopCount b := by
  rw [ssidLoopCount, ssidLoopCount, same.smallestSSID, same.largestSSID]

def recoverSymbolPayloads : Call Block (Slice UInt8) := do
  let b ← Call.get
  if !b.isRecoverable then
    Call.fail "not enough present symbols to repair the missing ones"
  else if b.isComplete then
    return Slice.empty
  else
    let biggest := b.biggestSourceSymbolLenSoFar
    let recoveredSymbol := List.replicate maxPacketBufferSize (0 : UInt8)
    let recoveredSymbol ← xorRepairs recoveredSymbol b.pidToRepairPayload.entries
    let recoveredSymbol ← xorSources biggest recoveredSymbol b.ssidToSourcePayload.entries
    let high ← index recoveredSymbol biggest
    let low ← index recoveredSymbol (biggest + 1)
    let payloadLen : Nat := high.toNat * 256 + low.toNat
    let recoveredPayload ← Slice.sliceTo (Slice.ofList recoveredSymbol) payloadLen
    let b' := { b with
      ssidToSourcePayload :=
        fillMissing recoveredPayload (ssidLoopCount b) b.smallestSSID b.ssidToSourcePayload }
    Call.set b'
    if !b'.isComplete then Call.fail "block is not complete after recovery"
    else return recoveredPayload

end XorScheme

/-- `xorScheme{}` as a `BlockFECScheme`. -/
def xorScheme : BlockFECScheme where
  repairSymbols := XorScheme.repairSymbols
  recoverSymbolPayloads := XorScheme.recoverSymbolPayloads

end QuicFec.Fec
