import QuicFec.Fec.Xor

/-! # The FEC manager

`internal/fec/manager.go`: one manager is both the sender and the receiver
side of a connection's FEC.  It keeps one `blockStatus` per block id; a block
is created by the first symbol that names it, mutated through its pointer by
every later symbol, and dropped once it is processed: complete on the sender
(repair symbols generated), complete or recovered on the receiver.

The manager's `scheme` field is fixed by `NewManager`; the methods here take it
as their first argument. -/
set_option autoImplicit false

namespace QuicFec.Fec

open Go QuicFec.Protocol QuicFec.Wire

structure BlockStatus where
  block : Option Block
  isProcessed : Bool
deriving DecidableEq

/-- `fec.manager`, without its scheme. -/
structure Manager where
  nextSID : SourceSymbolID
  numTotSourceSymbols : Int
  numTotRepairSymbols : Int
  blockStatuses : AList (fun _ : BlockID => BlockStatus)
deriving DecidableEq

namespace Manager

def newManager (numTotSourceSymbols numTotRepairSymbols : Int) : Except String Manager :=
  if numTotSourceSymbols < 0 || numTotRepairSymbols < 0 then
    .error "numTotSourceSymbols and numTotRepairSymbols may not be negative"
  else
    .ok { nextSID := 0
          numTotSourceSymbols := numTotSourceSymbols
          numTotRepairSymbols := numTotRepairSymbols
          blockStatuses := ∅ }

/-- The switch shared by `fec.NewSender` and `fec.NewReceiver`: no manager
for `FECDisabled`, XOR with two source symbols and one repair symbol per block,
Reed-Solomon with twenty and ten, and an error for every other byte.  The
Reed-Solomon encoder comes from `reedsolomon.New(20, 10)`, outside src/, and is
passed in as the scheme it yields. -/
def managerFor (reedSolomon : BlockFECScheme) (id : DecoderFECScheme) :
    Except String (Option (BlockFECScheme × Manager)) :=
  if id = fecDisabled then .ok none
  else if id = xorFECScheme then (newManager 2 1).map fun m => some (xorScheme, m)
  else if id = reedSolomonFECScheme then (newManager 20 10).map fun m => some (reedSolomon, m)
  else .error s!"unknown FEC scheme: {id}"

def newSender (reedSolomon : BlockFECScheme) (id : DecoderFECScheme) :
    Except String (Option (BlockFECScheme × Manager)) :=
  managerFor reedSolomon id

def newReceiver (reedSolomon : BlockFECScheme) (id : DecoderFECScheme) :
    Except String (Option (BlockFECScheme × Manager)) :=
  managerFor reedSolomon id

def nextSSID : Call Manager SourceSymbolID := fun m =>
  .ok m.nextSID { m with nextSID := m.nextSID + 1 }

/-- `manager.sidToBlockID`: `uint64` division, which panics for a manager
with no source symbols per block. -/
def sidToBlockID (sid : SourceSymbolID) : Call Manager BlockID := fun m =>
  if UInt64.ofInt m.numTotSourceSymbols = 0 then .panic "runtime error: integer divide by zero"
  else .ok (sid / UInt64.ofInt m.numTotSourceSymbols) m

/-- The status of a block, created unprocessed with a fresh block if the
manager has not seen the block id yet. -/
def statusOf (blockID : BlockID) : Call Manager BlockStatus := fun m =>
  match m.blockStatuses.lookup blockID with
  | some bS => .ok bS m
  | none =>
      let bS : BlockStatus :=
        ⟨some (Block.newBlock blockID m.numTotSourceSymbols m.numTotRepairSymbols), false⟩
      .ok bS { m with blockStatuses := m.blockStatuses.insert blockID bS }

/-- Run a block method through `bS.block`: a nil block is a nil-pointer
dereference, and what the method writes into the block is seen through the
manager's map. -/
def onBlock {α : Type} (blockID : BlockID) (x : Call Block α) : Call Manager α := fun m =>
  match m.blockStatuses.lookup blockID with
  | some ⟨some b, processed⟩ =>
      match x b with
      | .ok a b' =>
          .ok a { m with blockStatuses := m.blockStatuses.insert blockID ⟨some b', processed⟩ }
      | .error e b' =>
          .error e { m with blockStatuses := m.blockStatuses.insert blockID ⟨some b', processed⟩ }
      | .panic msg => .panic msg
  | _ => .panic "runtime error: invalid memory address or nil pointer dereference"

/-- A block method that only reads the block. -/
def readBlock {α : Type} (blockID : BlockID) (read : Block → α) : Call Manager α :=
  onBlock blockID (fun b => .ok (read b) b)

/-- `bS.block = nil; bS.isProcessed = true; m.blockStatuses[blockID] = bS`. -/
def retire (blockID : BlockID) : Call Manager Unit := fun m =>
  .ok () { m with blockStatuses := m.blockStatuses.insert blockID ⟨none, true⟩ }

/-- `manager.AddSourceSymbolFrame`, the sender side: store the source symbol
and, once its block is complete, return the block's repair symbols. -/
def addSourceSymbolFrame (scheme : BlockFECScheme) (f : SourceSymbolFrame) :
    Call Manager (List RepairFrame) := do
  let blockID ← sidToBlockID f.ssid
  let bS ← statusOf blockID
  if bS.isProcessed then return []
  onBlock blockID (Block.addSourceSymbol f)
  if ← readBlock blockID Block.isComplete then
    let repairSymbols ← onBlock blockID scheme.repairSymbols
    retire blockID
    return repairSymbols
  return []

/-- `manager.HandleRepairFrame`, the receiver side: store the repair symbol
and recover the block's missing source payloads once it is recoverable. -/
def handleRepairFrame (scheme : BlockFECScheme) (f : RepairFrame) :
    Call Manager (Slice UInt8) := do
  let bS ← statusOf f.metadata.blockID
  if bS.isProcessed then return Slice.empty
  onBlock f.metadata.blockID (Block.addRepairSymbol f)
  if ← readBlock f.metadata.blockID Block.isRecoverable then
    let sourceSymbolBytes ← onBlock f.metadata.blockID scheme.recoverSymbolPayloads
    retire f.metadata.blockID
    return sourceSymbolBytes
  return Slice.empty

/-- `manager.HandleSourceSymbolFrame`, the receiver side: store the source
symbol, pass its payload up, and mark the block processed once complete.  It
never asks whether the block has become recoverable. -/
def handleSourceSymbolFrame (f : SourceSymbolFrame) : Call Manager (Slice UInt8) := do
  let blockID ← sidToBlockID f.ssid
  let bS ← statusOf blockID
  if bS.isProcessed then return Slice.empty
  onBlock blockID (Block.addSourceSymbol f)
  if ← readBlock blockID Block.isComplete then retire blockID
  return f.payload

/-- On the XOR receiver (`k = 2`, `m = 1`), the REPAIR frame an honest sender
makes for block 0 from the payloads `[1]` and `[2]`, followed by the first
source symbol, leaves block 0 unprocessed and recoverable with two (`k`)
stored symbols: the lost second payload is never recovered from them. -/
theorem xorReceiver_repair_then_source_not_recovered :
    let s0 : SourceSymbolFrame := ⟨0, Slice.ofList [1]⟩
    let s1 : SourceSymbolFrame := ⟨1, Slice.ofList [2]⟩
    let r : RepairFrame := ⟨⟨0, 0⟩, Slice.ofList [3, 0, 0]⟩
    newSender xorScheme xorFECScheme = .ok (some (xorScheme, ⟨0, 2, 1, ∅⟩)) ∧
    Result.value? ((addSourceSymbolFrame xorScheme s0 >>= fun _ =>
      addSourceSymbolFrame xorScheme s1) ⟨0, 2, 1, ∅⟩) = some [r] ∧
    newReceiver xorScheme xorFECScheme = .ok (some (xorScheme, ⟨0, 2, 1, ∅⟩)) ∧
    (Result.state? ((handleRepairFrame xorScheme r >>= fun _ =>
      handleSourceSymbolFrame s0) ⟨0, 2, 1, ∅⟩)).bind
        (fun m => (m.blockStatuses.lookup 0).bind fun bS =>
          bS.block.map fun b => (bS.isProcessed, b.isRecoverable, b.numStored)) =
      some (false, true, 2) := by
  refine ⟨rfl, ?_, rfl, ?_⟩
  · decide
  · decide

end Manager

end QuicFec.Fec

namespace QuicFec

/-- A FEC manager together with the scheme it was built with: what
`fec.NewSender` and `fec.NewReceiver` return. -/
abbrev FECEndpoint := Fec.BlockFECScheme × Fec.Manager

end QuicFec
