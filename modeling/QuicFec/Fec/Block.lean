import QuicFec.Wire.FecFrames

/-! # FEC blocks

`internal/fec/block.go`: a block protects the `totNumSourceSymbols` consecutive
source symbol IDs starting at `id * totNumSourceSymbols`, stores the source and
repair payloads seen so far in two maps, and tracks the biggest source payload
length, which fixes the repair payload length.

Go maps are `AList`s; their length is the number of keys.  SSIDs are `uint64`
with wrapping arithmetic, and the `int` fields are `Int`, converted from
`uint64` as Go does (two's complement). -/
set_option autoImplicit false

namespace QuicFec.Fec

open Go QuicFec.Protocol QuicFec.Wire

/-- `int(x)` for a `uint64` `x`. -/
def toGoInt (x : UInt64) : Int :=
  if x.toNat < 2 ^ 63 then x.toNat else (x.toNat : Int) - 2 ^ 64

structure Block where
  id : BlockID
  ssidToSourcePayload : AList (fun _ : SourceSymbolID => Slice UInt8)
  pidToRepairPayload : AList (fun _ : ParityID => Slice UInt8)
  smallestSSID : SourceSymbolID
  largestSSID : SourceSymbolID
  totNumSourceSymbols : Int
  totNumRepairSymbols : Int
  biggestSourceSymbolLenSoFar : Int
deriving DecidableEq

namespace Block

def newBlock (id : BlockID) (totNumSourceSymbols totNumRepairSymbols : Int) : Block :=
  let smallestSSID : SourceSymbolID := id * UInt64.ofInt totNumSourceSymbols
  let largestSSID : SourceSymbolID := smallestSSID + UInt64.ofInt totNumSourceSymbols - 1
  { id := id
    ssidToSourcePayload := ∅
    pidToRepairPayload := ∅
    smallestSSID := smallestSSID
    largestSSID := largestSSID
    totNumSourceSymbols := toGoInt (largestSSID - smallestSSID + 1)
    totNumRepairSymbols := totNumRepairSymbols
    biggestSourceSymbolLenSoFar := 0 }

/-- `block.addSourceSymbol`: a source symbol outside `[smallestSSID,
largestSSID]` is an error; a second payload for a stored SSID is ignored. -/
def addSourceSymbol (f : SourceSymbolFrame) : Call Block Unit := fun b =>
  if f.ssid < b.smallestSSID || f.ssid > b.largestSSID then
    .error "source symbol was provided to the wrong block" b
  else if f.ssid ∈ b.ssidToSourcePayload then .ok () b
  else
    .ok () { b with
      ssidToSourcePayload := b.ssidToSourcePayload.insert f.ssid f.payload
      biggestSourceSymbolLenSoFar :=
        if b.biggestSourceSymbolLenSoFar < f.payload.len then f.payload.len
        else b.biggestSourceSymbolLenSoFar }

/-- `block.addRepairSymbol`: a repair symbol of another block is an error; the
first payload of a parity ID is stored and resets the biggest source length
to the repair payload length minus `RepairPayloadMetadataLen`. -/
def addRepairSymbol (f : RepairFrame) : Call Block Unit := fun b =>
  if b.id ≠ f.metadata.blockID then
    .error "the repair symbol was provided to the wrong block" b
  else if f.metadata.parityID ∈ b.pidToRepairPayload then .ok () b
  else
    .ok () { b with
      pidToRepairPayload := b.pidToRepairPayload.insert f.metadata.parityID f.payload
      biggestSourceSymbolLenSoFar := (f.payload.len : Int) - repairPayloadMetadataLen }

def isRecoverable (b : Block) : Bool :=
  decide ((b.ssidToSourcePayload.entries.length + b.pidToRepairPayload.entries.length : Int) ≥
    b.totNumSourceSymbols)

def isComplete (b : Block) : Bool :=
  decide ((b.ssidToSourcePayload.entries.length : Int) = b.totNumSourceSymbols)

/-- The number of stored source and repair symbols. -/
def numStored (b : Block) : Nat :=
  b.ssidToSourcePayload.entries.length + b.pidToRepairPayload.entries.length

theorem isRecoverable_iff (b : Block) :
    b.isRecoverable = true ↔ b.totNumSourceSymbols ≤ b.numStored := by
  simp [isRecoverable, numStored]

theorem isComplete_iff (b : Block) :
    b.isComplete = true ↔ (b.ssidToSourcePayload.entries.length : Int) = b.totNumSourceSymbols := by
  simp [isComplete]

/-! ## What one call does to a block -/

/-- Two blocks protecting the same SSIDs with the same parameters. -/
structure SameRange (b b' : Block) : Prop where
  id : b'.id = b.id
  smallestSSID : b'.smallestSSID = b.smallestSSID
  largestSSID : b'.largestSSID = b.largestSSID
  totNumSourceSymbols : b'.totNumSourceSymbols = b.totNumSourceSymbols
  totNumRepairSymbols : b'.totNumRepairSymbols = b.totNumRepairSymbols

@[refl] theorem SameRange.refl (b : Block) : SameRange b b := ⟨rfl, rfl, rfl, rfl, rfl⟩

@[trans] theorem SameRange.trans {b b' b'' : Block} (first : SameRange b b') (second : SameRange b' b'') :
    SameRange b b'' :=
  ⟨second.id.trans first.id, second.smallestSSID.trans first.smallestSSID,
    second.largestSSID.trans first.largestSSID, second.totNumSourceSymbols.trans first.totNumSourceSymbols,
    second.totNumRepairSymbols.trans first.totNumRepairSymbols⟩

theorem addSourceSymbol_apply_of_fresh {f : SourceSymbolFrame} {b : Block}
    (inRange : b.smallestSSID ≤ f.ssid ∧ f.ssid ≤ b.largestSSID) (fresh : f.ssid ∉ b.ssidToSourcePayload) :
    addSourceSymbol f b = .ok () { b with
      ssidToSourcePayload := b.ssidToSourcePayload.insert f.ssid f.payload
      biggestSourceSymbolLenSoFar :=
        if b.biggestSourceSymbolLenSoFar < f.payload.len then f.payload.len
        else b.biggestSourceSymbolLenSoFar } := by
  have inside : (f.ssid < b.smallestSSID || f.ssid > b.largestSSID) = false := by
    simp only [Bool.or_eq_false_iff, decide_eq_false_iff_not, gt_iff_lt]
    exact ⟨UInt64.not_lt.mpr inRange.1, UInt64.not_lt.mpr inRange.2⟩
  rw [addSourceSymbol, if_neg (by rw [inside]; decide), if_neg fresh]

theorem addRepairSymbol_apply_of_fresh {f : RepairFrame} {b : Block} (sameBlock : b.id = f.metadata.blockID)
    (fresh : f.metadata.parityID ∉ b.pidToRepairPayload) :
    addRepairSymbol f b = .ok () { b with
      pidToRepairPayload := b.pidToRepairPayload.insert f.metadata.parityID f.payload
      biggestSourceSymbolLenSoFar := (f.payload.len : Int) - repairPayloadMetadataLen } := by
  rw [addRepairSymbol, if_neg (not_not.mpr sameBlock), if_neg fresh]

end Block

/-- `fec.BlockFECScheme`: how a scheme turns a complete block into repair
symbols and a recoverable block back into its missing source payloads.  Both
take the block by pointer, so what they write into it stays. -/
structure BlockFECScheme where
  repairSymbols : Call Block (List RepairFrame)
  recoverSymbolPayloads : Call Block (Slice UInt8)

end QuicFec.Fec
