import QuicFec.Fec.Xor

/-! # Recovering a lost source symbol with the XOR scheme

A sender block of `k` source payloads under the SSIDs `id * k` to
`id * k + k - 1` yields one REPAIR frame.  A fresh receiver block for the same
id that gets the REPAIR frame and all source payloads but one, in any order,
recovers the missing payload byte for byte.

The argument is the parity of `ByteXor`: the repair payload is the XOR of
the tagged payloads of the block (each payload with its length at
`biggestSourceSymbolLenSoFar`), and the receiver XORs the tagged payloads it
has into it, which leaves the tagged missing payload.  Both ends place the
length at the same offset: the sender's biggest payload length, which the
receiver reads off the repair payload's length and which no source payload
exceeds. -/
set_option autoImplicit false

namespace QuicFec.Fec

open Go QuicFec.Protocol QuicFec.Wire ByteXor XorScheme

/-! ## SSIDs of a block that does not wrap -/

section Range

variable {smallest : SourceSymbolID} {k : Nat}

theorem toNat_add_ofNat (fits : smallest.toNat + k ≤ 2 ^ 64) {i : Nat} (below : i < k) :
    (smallest + UInt64.ofNat i).toNat = smallest.toNat + i := by
  rw [UInt64.toNat_add, UInt64.toNat_ofNat']
  omega

theorem toNat_ofInt_natCast (n : Nat) : (UInt64.ofInt (n : Int)).toNat = n % 2 ^ 64 := by
  rw [UInt64.ofInt, UInt64.toNat_ofNat']
  omega

theorem ofInt_natCast (n : Nat) : UInt64.ofInt (n : Int) = UInt64.ofNat n := by
  apply UInt64.toNat_inj.mp
  rw [toNat_ofInt_natCast, UInt64.toNat_ofNat']

end Range

namespace Block

variable {id : BlockID} {k : Nat} {totNumRepairSymbols : Int}

@[simp] theorem newBlock_id : (newBlock id k totNumRepairSymbols).id = id := rfl

@[simp] theorem newBlock_ssidToSourcePayload :
    (newBlock id k totNumRepairSymbols).ssidToSourcePayload = ∅ := rfl

@[simp] theorem newBlock_pidToRepairPayload :
    (newBlock id k totNumRepairSymbols).pidToRepairPayload = ∅ := rfl

@[simp] theorem newBlock_totNumRepairSymbols :
    (newBlock id k totNumRepairSymbols).totNumRepairSymbols = totNumRepairSymbols := rfl

@[simp] theorem newBlock_biggestSourceSymbolLenSoFar :
    (newBlock id k totNumRepairSymbols).biggestSourceSymbolLenSoFar = 0 := rfl

theorem newBlock_smallestSSID : (newBlock id k totNumRepairSymbols).smallestSSID = id * UInt64.ofNat k := by
  rw [newBlock, ofInt_natCast]

section NoWrap

variable (nonempty : 0 < k) (fits : (id * UInt64.ofNat k).toNat + k ≤ 2 ^ 64)
include nonempty fits

theorem newBlock_largestSSID_toNat :
    (newBlock id k totNumRepairSymbols).largestSSID.toNat = (id * UInt64.ofNat k).toNat + k - 1 := by
  have smallest : (newBlock id k totNumRepairSymbols).smallestSSID = id * UInt64.ofNat k := newBlock_smallestSSID
  simp only [newBlock] at smallest ⊢
  rw [smallest, ofInt_natCast, UInt64.toNat_sub, UInt64.toNat_add, UInt64.toNat_ofNat', UInt64.toNat_one]
  omega

theorem newBlock_totNumSourceSymbols (isInt : k < 2 ^ 63) :
    (newBlock id k totNumRepairSymbols).totNumSourceSymbols = k := by
  have largest : (newBlock id k totNumRepairSymbols).largestSSID.toNat = (id * UInt64.ofNat k).toNat + k - 1 :=
    newBlock_largestSSID_toNat nonempty fits
  have smallest : (newBlock id k totNumRepairSymbols).smallestSSID = id * UInt64.ofNat k := newBlock_smallestSSID
  have count : ((newBlock id k totNumRepairSymbols).largestSSID - (newBlock id k totNumRepairSymbols).smallestSSID +
      1).toNat = k := by
    rw [UInt64.toNat_add, UInt64.toNat_sub, largest, smallest, UInt64.toNat_one]
    omega
  simp only [newBlock] at count ⊢
  rw [toGoInt, if_pos (by omega), count]

theorem newBlock_mem_range {i : Nat} (below : i < k) :
    (newBlock id k totNumRepairSymbols).smallestSSID ≤ id * UInt64.ofNat k + UInt64.ofNat i ∧
      id * UInt64.ofNat k + UInt64.ofNat i ≤ (newBlock id k totNumRepairSymbols).largestSSID := by
  rw [UInt64.le_iff_toNat_le, UInt64.le_iff_toNat_le, newBlock_largestSSID_toNat nonempty fits,
    newBlock_smallestSSID, toNat_add_ofNat fits below]
  omega

theorem ssidLoopCount_newBlock : ssidLoopCount (newBlock id k totNumRepairSymbols) = k := by
  have largest : (newBlock id k totNumRepairSymbols).largestSSID.toNat = (id * UInt64.ofNat k).toNat + k - 1 :=
    newBlock_largestSSID_toNat nonempty fits
  have smallest : (newBlock id k totNumRepairSymbols).smallestSSID.toNat = (id * UInt64.ofNat k).toNat := by
    rw [newBlock_smallestSSID]
  rw [ssidLoopCount, if_pos (UInt64.le_iff_toNat_le.mpr (by omega)), UInt64.toNat_sub_of_le _ _
    (UInt64.le_iff_toNat_le.mpr (by omega)), largest, smallest]
  omega

end NoWrap

theorem newBlock_largestSSID_lt_of_wraps (isInt : k < 2 ^ 63)
    (wraps : 2 ^ 64 < (id * UInt64.ofNat k).toNat + k) :
    (newBlock id k totNumRepairSymbols).largestSSID < (newBlock id k totNumRepairSymbols).smallestSSID := by
  have smallest : (newBlock id k totNumRepairSymbols).smallestSSID = id * UInt64.ofNat k := newBlock_smallestSSID
  have below := UInt64.toNat_lt (id * UInt64.ofNat k)
  rw [UInt64.lt_iff_toNat_lt, smallest]
  simp only [newBlock]
  rw [ofInt_natCast, UInt64.toNat_sub, UInt64.toNat_add, UInt64.toNat_ofNat', UInt64.toNat_one]
  omega

end Block

/-! ## The source symbols of a block -/

/-- A SOURCE_SYMBOL frame as an entry of `ssidToSourcePayload`. -/
def sourceEntry (f : SourceSymbolFrame) : Σ _ : SourceSymbolID, Slice UInt8 := ⟨f.ssid, f.payload⟩

/-- The SOURCE_SYMBOL frames of block `id` of `k = payloads.length` symbols:
payload `i` under SSID `id * k + i`. -/
def sourceSymbolFrames (id : BlockID) (payloads : List (Slice UInt8)) : List SourceSymbolFrame :=
  payloads.mapIdx fun i payload => ⟨id * UInt64.ofNat payloads.length + UInt64.ofNat i, payload⟩

theorem mem_iff_of_entries_perm {m : AList (fun _ : SourceSymbolID => Slice UInt8)}
    {entries : List (Σ _ : SourceSymbolID, Slice UInt8)} (perm : m.entries.Perm entries) (ssid : SourceSymbolID) :
    ssid ∈ m ↔ ∃ entry ∈ entries, entry.1 = ssid := by
  rw [AList.mem_keys, AList.keys, List.keys, List.mem_map]
  simp only [perm.mem_iff]

section Frames

variable {id : BlockID} {payloads : List (Slice UInt8)}

@[simp] theorem length_sourceSymbolFrames : (sourceSymbolFrames id payloads).length = payloads.length := by
  simp [sourceSymbolFrames]

@[simp] theorem getElem_sourceSymbolFrames {i : Nat} (inside : i < (sourceSymbolFrames id payloads).length) :
    (sourceSymbolFrames id payloads)[i] =
      ⟨id * UInt64.ofNat payloads.length + UInt64.ofNat i, payloads.get ⟨i, by simpa using inside⟩⟩ := by
  simp [sourceSymbolFrames]

theorem payload_mem_of_mem {f : SourceSymbolFrame} (member : f ∈ sourceSymbolFrames id payloads) :
    f.payload ∈ payloads := by
  obtain ⟨i, inside, rfl⟩ := List.getElem_of_mem member
  simp [List.getElem_mem]

theorem exists_frame_of_mem {payload : Slice UInt8} (member : payload ∈ payloads) :
    ∃ f ∈ sourceSymbolFrames id payloads, f.payload = payload := by
  obtain ⟨i, inside, rfl⟩ := List.getElem_of_mem member
  have frameInside : i < (sourceSymbolFrames id payloads).length := by simpa using inside
  exact ⟨_, List.getElem_mem frameInside, by simp⟩

variable (fits : (id * UInt64.ofNat payloads.length).toNat + payloads.length ≤ 2 ^ 64)
include fits

theorem ssid_injective {i j : Nat} (iInside : i < (sourceSymbolFrames id payloads).length)
    (jInside : j < (sourceSymbolFrames id payloads).length)
    (same : (sourceSymbolFrames id payloads)[i].ssid = (sourceSymbolFrames id payloads)[j].ssid) : i = j := by
  simp only [length_sourceSymbolFrames] at iInside jInside
  simp only [getElem_sourceSymbolFrames] at same
  have := congrArg UInt64.toNat same
  rw [toNat_add_ofNat fits iInside, toNat_add_ofNat fits jInside] at this
  omega

theorem nodup_sourceSymbolFrames : (sourceSymbolFrames id payloads).Nodup := by
  rw [List.nodup_iff_injective_getElem]
  intro i j same
  exact Fin.ext (ssid_injective fits i.isLt j.isLt (congrArg SourceSymbolFrame.ssid same))

theorem eq_of_ssid_eq {f g : SourceSymbolFrame} (fMember : f ∈ sourceSymbolFrames id payloads)
    (gMember : g ∈ sourceSymbolFrames id payloads) (same : f.ssid = g.ssid) : f = g := by
  obtain ⟨i, iInside, rfl⟩ := List.getElem_of_mem fMember
  obtain ⟨j, jInside, rfl⟩ := List.getElem_of_mem gMember
  obtain rfl := ssid_injective fits iInside jInside same
  rfl

end Frames

/-! ## The sender -/

/-- What the sender's block holds after the source symbols `done`: their
payloads, and as biggest length one of their lengths at least as big as all. -/
structure SenderHolds (start : Block) (done : List SourceSymbolFrame) (b : Block) : Prop where
  range : Block.SameRange start b
  repairs : b.pidToRepairPayload = start.pidToRepairPayload
  sources : b.ssidToSourcePayload.entries.Perm (done.map sourceEntry)
  nonneg : 0 ≤ b.biggestSourceSymbolLenSoFar
  atLeast : ∀ f ∈ done, (f.payload.len : Int) ≤ b.biggestSourceSymbolLenSoFar
  attained : b.biggestSourceSymbolLenSoFar = 0 ∨ ∃ f ∈ done, b.biggestSourceSymbolLenSoFar = f.payload.len

theorem senderHolds_start (start : Block) (empty : start.ssidToSourcePayload = ∅)
    (zero : start.biggestSourceSymbolLenSoFar = 0) : SenderHolds start [] start where
  range := Block.SameRange.refl start
  repairs := rfl
  sources := by rw [empty]; rfl
  nonneg := Int.le_of_eq zero.symm
  atLeast := by simp
  attained := .inl zero

theorem SenderHolds.add {start b : Block} {done : List SourceSymbolFrame} {f : SourceSymbolFrame}
    (holds : SenderHolds start done b) (inRange : start.smallestSSID ≤ f.ssid ∧ f.ssid ≤ start.largestSSID)
    (fresh : ∀ g ∈ done, g.ssid ≠ f.ssid) :
    ∃ b', Block.addSourceSymbol f b = .ok () b' ∧ SenderHolds start (done ++ [f]) b' := by
  have notStored : f.ssid ∉ b.ssidToSourcePayload := by
    rw [mem_iff_of_entries_perm holds.sources]
    rintro ⟨_, member, same⟩
    obtain ⟨g, gDone, rfl⟩ := List.mem_map.mp member
    exact fresh g gDone same
  refine ⟨_, Block.addSourceSymbol_apply_of_fresh
    (by rw [holds.range.smallestSSID, holds.range.largestSSID]; exact inRange) notStored, ?_⟩
  by_cases larger : b.biggestSourceSymbolLenSoFar < f.payload.len
  · refine ⟨holds.range.trans ⟨rfl, rfl, rfl, rfl, rfl⟩, holds.repairs, ?_, ?_, ?_, ?_⟩
    · rw [AList.entries_insert_of_notMem notStored, List.map_append]
      exact ((holds.sources.cons _).trans (List.perm_append_singleton _ _).symm)
    · simp only [if_pos larger]
      omega
    · intro g member
      simp only [if_pos larger]
      rcases List.mem_append.mp member with old | new
      · exact Int.le_trans (holds.atLeast g old) (Int.le_of_lt larger)
      · obtain rfl := List.mem_singleton.mp new
        exact Int.le_refl _
    · exact .inr ⟨f, by simp, by simp only [if_pos larger]⟩
  · refine ⟨holds.range.trans ⟨rfl, rfl, rfl, rfl, rfl⟩, holds.repairs, ?_, ?_, ?_, ?_⟩
    · rw [AList.entries_insert_of_notMem notStored, List.map_append]
      exact ((holds.sources.cons _).trans (List.perm_append_singleton _ _).symm)
    · simpa only [if_neg larger] using holds.nonneg
    · intro g member
      simp only [if_neg larger]
      rcases List.mem_append.mp member with old | new
      · exact holds.atLeast g old
      · rw [List.mem_singleton.mp new]
        omega
    · simp only [if_neg larger]
      rcases holds.attained with zero | ⟨g, gDone, same⟩
      · exact .inl zero
      · exact .inr ⟨g, List.mem_append_left _ gDone, same⟩

/-! ## The repair frame -/

/-- The REPAIR frame of block `id` of `payloads`, whose biggest length is
`biggest`: the XOR of their tagged payloads, `biggest + 2` bytes long. -/
structure RepairOf (id : BlockID) (payloads : List (Slice UInt8)) (biggest : Nat) (repair : RepairFrame) :
    Prop where
  blockID : repair.metadata.blockID = id
  parityID : repair.metadata.parityID = 0
  small : biggest ≤ maxFECPacketBufferSize
  fits : ∀ payload ∈ payloads, payload.len ≤ biggest
  bytes : repair.payload = Slice.ofList (xorWith (List.replicate (biggest + 2) 0)
    (taggedSum biggest ((sourceSymbolFrames id payloads).map sourceEntry)))

theorem taggedSum_perm {biggest : Nat} {entries entries' : List (Σ _ : SourceSymbolID, Slice UInt8)}
    (perm : entries.Perm entries') : taggedSum biggest entries = taggedSum biggest entries' :=
  xorSum_perm (perm.map _)

section Sender

variable {id : BlockID} {payloads : List (Slice UInt8)}
  (nonempty : 0 < payloads.length) (fits : (id * UInt64.ofNat payloads.length).toNat + payloads.length ≤ 2 ^ 64)
include nonempty fits

theorem mem_sourceSymbolFrames {totNumRepairSymbols : Int} {f : SourceSymbolFrame}
    (member : f ∈ sourceSymbolFrames id payloads) :
    f.payload ∈ payloads ∧
      (Block.newBlock id payloads.length totNumRepairSymbols).smallestSSID ≤ f.ssid ∧
      f.ssid ≤ (Block.newBlock id payloads.length totNumRepairSymbols).largestSSID := by
  obtain ⟨i, inside, rfl⟩ := List.getElem_of_mem member
  simp only [length_sourceSymbolFrames] at inside
  simp only [getElem_sourceSymbolFrames]
  exact ⟨List.getElem_mem inside, Block.newBlock_mem_range nonempty fits inside⟩

theorem sourceSymbols_added :
    ∃ b, Call.forEach Block.addSourceSymbol (sourceSymbolFrames id payloads)
        (Block.newBlock id payloads.length 1) = .ok () b ∧
      SenderHolds (Block.newBlock id payloads.length 1) (sourceSymbolFrames id payloads) b := by
  apply Call.forEach_ok_of_invariant _ _ (senderHolds_start _ rfl rfl)
  intro i inside t holds
  rw [List.take_succ_eq_append_getElem inside]
  apply holds.add (mem_sourceSymbolFrames nonempty fits (List.getElem_mem inside)).2
  intro g member same
  obtain ⟨m, mInside, rfl⟩ := List.getElem_of_mem member
  rw [List.getElem_take] at same
  have := ssid_injective fits _ inside same
  simp only [List.length_take] at mInside
  omega

theorem repairSymbols_of_added (short : ∀ payload ∈ payloads, payload.len ≤ maxFECPacketBufferSize)
    (isInt : payloads.length < 2 ^ 63) {b : Block}
    (holds : SenderHolds (Block.newBlock id payloads.length 1) (sourceSymbolFrames id payloads) b) :
    ∃ repair biggest, xorScheme.repairSymbols b = .ok [repair] b ∧ RepairOf id payloads biggest repair := by
  have entryFits : ∀ entry ∈ b.ssidToSourcePayload.entries,
      ∃ f ∈ sourceSymbolFrames id payloads, entry = sourceEntry f := by
    intro entry member
    obtain ⟨f, fMember, rfl⟩ := List.mem_map.mp (holds.sources.mem_iff.mp member)
    exact ⟨f, fMember, rfl⟩
  have complete : b.isComplete = true := by
    rw [Block.isComplete_iff, holds.range.totNumSourceSymbols,
      Block.newBlock_totNumSourceSymbols nonempty fits isInt, holds.sources.length_eq]
    simp
  have atLeast : ∀ payload ∈ payloads, payload.len ≤ b.biggestSourceSymbolLenSoFar.toNat := by
    intro payload member
    obtain ⟨f, fMember, rfl⟩ := exists_frame_of_mem member
    have := holds.atLeast f fMember
    omega
  have small : b.biggestSourceSymbolLenSoFar.toNat ≤ maxFECPacketBufferSize := by
    rcases holds.attained with zero | ⟨f, fMember, same⟩
    · rw [zero]
      decide
    · have := short _ (payload_mem_of_mem fMember)
      omega
  refine ⟨_, b.biggestSourceSymbolLenSoFar.toNat, repairSymbols_apply b complete (by rw [holds.range.totNumRepairSymbols]; rfl)
    (Int.toNat_of_nonneg holds.nonneg).symm small ?_, ?_⟩
  · intro entry member
    obtain ⟨f, fMember, rfl⟩ := entryFits entry member
    exact atLeast _ (payload_mem_of_mem fMember)
  · exact ⟨by rw [holds.range.id]; rfl, rfl, small, atLeast, by rw [taggedSum_perm holds.sources]⟩

end Sender

/-! ## The receiver -/

/-- How a receiver block takes a REPAIR or a SOURCE_SYMBOL frame. -/
def addSymbol : RepairFrame ⊕ SourceSymbolFrame → Call Block Unit
  | .inl f => Block.addRepairSymbol f
  | .inr f => Block.addSourceSymbol f

/-- The source symbol entries among the frames received. -/
def receivedSources (done : List (RepairFrame ⊕ SourceSymbolFrame)) : List (Σ _ : SourceSymbolID, Slice UInt8) :=
  done.filterMap fun arrival => arrival.getRight?.map sourceEntry

theorem receivedSources_append (done more : List (RepairFrame ⊕ SourceSymbolFrame)) :
    receivedSources (done ++ more) = receivedSources done ++ receivedSources more :=
  List.filterMap_append

theorem receivedSources_repair_cons (repair : RepairFrame) (frames : List SourceSymbolFrame) :
    receivedSources (.inl repair :: frames.map .inr) = frames.map sourceEntry := by
  induction frames with
  | nil => rfl
  | cons f frames ih =>
      simp only [receivedSources, List.map_cons, List.filterMap_cons, Sum.getRight?_inl, Option.map_none,
        Sum.getRight?_inr, Option.map_some] at ih ⊢
      rw [ih]

theorem mem_receivedSources {done : List (RepairFrame ⊕ SourceSymbolFrame)} {entry : Σ _ : SourceSymbolID, Slice UInt8}
    (member : entry ∈ receivedSources done) : ∃ g, Sum.inr g ∈ done ∧ entry = sourceEntry g := by
  obtain ⟨arrival, arrived, found⟩ := List.mem_filterMap.mp member
  cases arrival with
  | inl _ => cases found
  | inr g =>
      cases found
      exact ⟨g, arrived, rfl⟩

/-- What the receiver's block holds after the frames `done`: their source
payloads, the repair payload once it came, and from then on the sender's
biggest length. -/
structure ReceiverHolds (start : Block) (repair : RepairFrame) (biggest : Nat)
    (done : List (RepairFrame ⊕ SourceSymbolFrame)) (b : Block) : Prop where
  range : Block.SameRange start b
  sources : b.ssidToSourcePayload.entries.Perm (receivedSources done)
  noRepair : Sum.inl repair ∉ done → b.pidToRepairPayload.entries = []
  repairs : Sum.inl repair ∈ done → b.pidToRepairPayload.entries = [⟨repair.metadata.parityID, repair.payload⟩]
  biggest : Sum.inl repair ∈ done → b.biggestSourceSymbolLenSoFar = biggest

section Receiver

variable {start b : Block} {repair : RepairFrame} {biggest : Nat} {done : List (RepairFrame ⊕ SourceSymbolFrame)}

theorem receiverHolds_start (empty : start.ssidToSourcePayload = ∅) (noRepair : start.pidToRepairPayload = ∅) :
    ReceiverHolds start repair biggest [] start where
  range := Block.SameRange.refl start
  sources := by rw [empty]; rfl
  noRepair := fun _ => by rw [noRepair]; rfl
  repairs := by simp
  biggest := by simp

theorem ReceiverHolds.addRepair (holds : ReceiverHolds start repair biggest done b)
    (notDone : Sum.inl repair ∉ done) (sameBlock : start.id = repair.metadata.blockID)
    (length : repair.payload.len = biggest + 2) :
    ∃ b', addSymbol (.inl repair) b = .ok () b' ∧ ReceiverHolds start repair biggest (done ++ [.inl repair]) b' := by
  have notStored : repair.metadata.parityID ∉ b.pidToRepairPayload := by
    rw [AList.mem_keys, AList.keys, holds.noRepair notDone]
    exact List.not_mem_nil
  refine ⟨_, Block.addRepairSymbol_apply_of_fresh (holds.range.id.trans sameBlock) notStored, ?_⟩
  refine ⟨holds.range.trans ⟨rfl, rfl, rfl, rfl, rfl⟩, ?_, ?_, ?_, ?_⟩
  · rw [receivedSources_append, show receivedSources [.inl repair] = [] from rfl, List.append_nil]
    exact holds.sources
  · intro notAfter
    exact absurd (List.mem_append_right _ (List.mem_singleton_self _)) notAfter
  · intro _
    rw [AList.entries_insert_of_notMem notStored, holds.noRepair notDone]
  · intro _
    simp only [length, repairPayloadMetadataLen]
    omega

theorem ReceiverHolds.addSource (holds : ReceiverHolds start repair biggest done b) {f : SourceSymbolFrame}
    (inRange : start.smallestSSID ≤ f.ssid ∧ f.ssid ≤ start.largestSSID)
    (fresh : ∀ g, Sum.inr g ∈ done → g.ssid ≠ f.ssid) (short : f.payload.len ≤ biggest) :
    ∃ b', addSymbol (.inr f) b = .ok () b' ∧ ReceiverHolds start repair biggest (done ++ [.inr f]) b' := by
  have notStored : f.ssid ∉ b.ssidToSourcePayload := by
    rw [mem_iff_of_entries_perm holds.sources]
    rintro ⟨entry, member, same⟩
    obtain ⟨g, arrived, rfl⟩ := mem_receivedSources member
    exact fresh g arrived same
  refine ⟨_, Block.addSourceSymbol_apply_of_fresh
    (by rw [holds.range.smallestSSID, holds.range.largestSSID]; exact inRange) notStored, ?_⟩
  have repairIn : Sum.inl repair ∈ done ++ [.inr f] ↔ Sum.inl repair ∈ done := by simp
  refine ⟨holds.range.trans ⟨rfl, rfl, rfl, rfl, rfl⟩, ?_, ?_, ?_, ?_⟩
  · rw [AList.entries_insert_of_notMem notStored, receivedSources_append]
    exact (holds.sources.cons _).trans (List.perm_append_singleton _ _).symm
  · exact fun notAfter => holds.noRepair (fun arrived => notAfter (repairIn.mpr arrived))
  · exact fun arrived => holds.repairs (repairIn.mp arrived)
  · intro arrived
    have isBiggest := holds.biggest (repairIn.mp arrived)
    simp only [isBiggest]
    rw [if_neg (by omega)]

end Receiver

section Received

variable {id : BlockID} {payloads : List (Slice UInt8)}
  (nonempty : 0 < payloads.length) (fits : (id * UInt64.ofNat payloads.length).toNat + payloads.length ≤ 2 ^ 64)
include nonempty fits

theorem symbols_received {repair : RepairFrame} {biggest : Nat} (repairOf : RepairOf id payloads biggest repair)
    {others : List SourceSymbolFrame} (othersNodup : others.Nodup)
    (ofBlock : ∀ f ∈ others, f ∈ sourceSymbolFrames id payloads)
    {arrivals : List (RepairFrame ⊕ SourceSymbolFrame)} (perm : arrivals.Perm (.inl repair :: others.map .inr)) :
    ∃ b, Call.forEach addSymbol arrivals (Block.newBlock id payloads.length 1) = .ok () b ∧
      ReceiverHolds (Block.newBlock id payloads.length 1) repair biggest arrivals b := by
  have nodup : arrivals.Nodup :=
    perm.nodup_iff.mpr (List.nodup_cons.mpr ⟨by simp, othersNodup.map (fun _ _ same => Sum.inr.inj same)⟩)
  apply Call.forEach_ok_of_invariant _ _ (receiverHolds_start rfl rfl)
  intro i inside t holds
  have notDone := Call.getElem_not_mem_take nodup inside
  have arrived : ∀ a ∈ arrivals.take i, a ∈ .inl repair :: others.map .inr :=
    fun a member => perm.mem_iff.mp (List.mem_of_mem_take member)
  have member := perm.mem_iff.mp (List.getElem_mem inside)
  rw [List.take_succ_eq_append_getElem inside]
  generalize arrivals[i] = a at notDone member ⊢
  generalize arrivals.take i = done at holds notDone arrived ⊢
  rcases List.mem_cons.mp member with rfl | fromSource
  · exact holds.addRepair notDone repairOf.blockID.symm (by rw [repairOf.bytes]; simp)
  · obtain ⟨f, fOther, rfl⟩ := List.mem_map.mp fromSource
    refine holds.addSource (mem_sourceSymbolFrames nonempty fits (ofBlock f fOther)).2 ?_
      (repairOf.fits _ (payload_mem_of_mem (ofBlock f fOther)))
    intro g gDone same
    have gOther : g ∈ others := by simpa using arrived _ gDone
    exact notDone (eq_of_ssid_eq fits (ofBlock g gOther) (ofBlock f fOther) same ▸ gDone)

end Received

/-! ## Recovery -/

section Recovery

variable {id : BlockID} {payloads : List (Slice UInt8)} {repair : RepairFrame} {biggest j : Nat}

theorem recovered_bytes (repairOf : RepairOf id payloads biggest repair) (missing : j < payloads.length)
    {entries : List (Σ _ : SourceSymbolID, Slice UInt8)}
    (received : entries.Perm (((sourceSymbolFrames id payloads).eraseIdx j).map sourceEntry)) :
    xorWith (xorWith (List.replicate maxPacketBufferSize 0) (repairSum [⟨repair.metadata.parityID, repair.payload⟩]))
        (taggedSum biggest entries) =
      xorWith (List.replicate maxPacketBufferSize 0) (taggedPayload biggest payloads[j]) := by
  have split : taggedSum biggest ((sourceSymbolFrames id payloads).map sourceEntry) =
      xorSum (taggedPayload biggest payloads[j] ::
        (((sourceSymbolFrames id payloads).eraseIdx j).map sourceEntry).map fun e => taggedPayload biggest e.2) := by
    rw [← taggedSum_perm ((List.getElem_cons_eraseIdx_perm (by simpa using missing)).map sourceEntry)]
    simp [taggedSum, sourceEntry]
  have othersShort : ∀ e ∈ ((sourceSymbolFrames id payloads).eraseIdx j).map sourceEntry, e.2.len ≤ biggest := by
    intro e member
    obtain ⟨f, fMember, rfl⟩ := List.mem_map.mp member
    exact repairOf.fits _ (payload_mem_of_mem (List.mem_of_mem_eraseIdx fMember))
  rw [xorWith_xorWith, taggedSum_perm received]
  congr 1
  funext i
  simp only [repairSum, List.map_cons, List.map_nil, xorSum_cons, xorSum_nil, UInt8.xor_zero, repairOf.bytes,
    Slice.ofList, getD_xorWith_replicate_zero, split]
  by_cases within : i < biggest + 2
  · rw [if_pos within]
    exact xorSum_cons_xor_cancel _ _ i
  · -- past the length bytes every tagged payload is zero
    have past : biggest + 2 ≤ i := by omega
    rw [if_neg within, UInt8.zero_xor, taggedPayload_eq_zero (repairOf.fits _ (List.getElem_mem missing)) past]
    apply xorSum_eq_zero
    intro f member
    obtain ⟨e, eMember, rfl⟩ := List.mem_map.mp member
    exact taggedPayload_eq_zero (othersShort e eMember) past

theorem recoverSymbolPayloads_of_received (nonempty : 0 < payloads.length) (isInt : payloads.length < 2 ^ 63)
    (fits : (id * UInt64.ofNat payloads.length).toNat + payloads.length ≤ 2 ^ 64)
    (repairOf : RepairOf id payloads biggest repair) (missing : j < payloads.length)
    {arrivals : List (RepairFrame ⊕ SourceSymbolFrame)}
    (perm : arrivals.Perm (.inl repair :: ((sourceSymbolFrames id payloads).eraseIdx j).map .inr)) {b : Block}
    (holds : ReceiverHolds (Block.newBlock id payloads.length 1) repair biggest arrivals b) :
    b.isRecoverable = true ∧ ∃ recovered final, xorScheme.recoverSymbolPayloads b = .ok recovered final ∧
      recovered.data = payloads[j].data ∧ final.isComplete = true ∧
      final.ssidToSourcePayload.lookup (id * UInt64.ofNat payloads.length + UInt64.ofNat j) = some recovered := by
  have repairIn : Sum.inl repair ∈ arrivals := perm.mem_iff.mpr List.mem_cons_self
  have sources : b.ssidToSourcePayload.entries.Perm (((sourceSymbolFrames id payloads).eraseIdx j).map sourceEntry) := by
    have := holds.sources.trans (show (receivedSources arrivals).Perm (receivedSources _) from perm.filterMap _)
    rwa [receivedSources_repair_cons] at this
  have total : b.totNumSourceSymbols = payloads.length := by
    rw [holds.range.totNumSourceSymbols, Block.newBlock_totNumSourceSymbols nonempty fits isInt]
  have others : ((sourceSymbolFrames id payloads).eraseIdx j).length = payloads.length - 1 := by
    rw [List.length_eraseIdx_of_lt (by simpa using missing), length_sourceSymbolFrames]
  have recoverable : b.isRecoverable = true := by
    rw [Block.isRecoverable_iff, total, Block.numStored, sources.length_eq, holds.repairs repairIn]
    simp only [List.length_map, others, List.length_cons, List.length_nil]
    omega
  have incomplete : b.isComplete = false := by
    rw [Bool.eq_false_iff, ne_eq, Block.isComplete_iff, total, sources.length_eq, List.length_map, others]
    omega
  have isBiggest := holds.biggest repairIn
  have short : payloads[j].len ≤ biggest := repairOf.fits _ (List.getElem_mem missing)
  have repairLength : repair.payload.len = biggest + 2 := by rw [repairOf.bytes]; simp
  have room : biggest + 2 ≤ maxPacketBufferSize := by
    have := repairOf.small
    simp only [maxFECPacketBufferSize, maxPacketBufferSize, maxFECHeaderOverhead] at this ⊢
    omega
  have repairs : xorRepairs (List.replicate maxPacketBufferSize 0) b.pidToRepairPayload.entries b =
      .ok (xorWith (List.replicate maxPacketBufferSize 0) (repairSum [⟨repair.metadata.parityID, repair.payload⟩])) b := by
    rw [holds.repairs repairIn]
    exact xorRepairs_apply _ _ (by simp [repairLength, room]) b
  generalize bufferDef : xorWith (List.replicate maxPacketBufferSize 0) (taggedPayload biggest payloads[j]) = buffer
  have received : xorSources biggest
      (xorWith (List.replicate maxPacketBufferSize 0) (repairSum [⟨repair.metadata.parityID, repair.payload⟩]))
      b.ssidToSourcePayload.entries b = .ok buffer b := by
    rw [xorSources_apply _ _ _ ?entriesFit (by simp; omega) b, recovered_bytes repairOf missing sources, ← bufferDef]
    intro entry member
    obtain ⟨f, fMember, rfl⟩ := List.mem_map.mp (sources.mem_iff.mp member)
    have := repairOf.fits _ (payload_mem_of_mem (List.mem_of_mem_eraseIdx fMember))
    simp only [sourceEntry, length_xorWith, List.length_replicate]
    omega
  have bufferLength : buffer.length = maxPacketBufferSize := by simp [← bufferDef]
  have byteAt : ∀ (i : Nat) (inside : i < buffer.length), buffer[i] = taggedPayload biggest payloads[j] i := by
    intro i inside
    simp [← bufferDef]
  have high : (index buffer (biggest : Int) : Call Block UInt8) b = .ok (lengthHighByte payloads[j].len) b := by
    rw [index_apply_of_lt _ biggest (by omega), List.get_eq_getElem, byteAt, taggedPayload_biggest short]
  have low : (index buffer ((biggest : Int) + 1) : Call Block UInt8) b = .ok (lengthLowByte payloads[j].len) b := by
    rw [show (biggest : Int) + 1 = ((biggest + 1 : Nat) : Int) by push_cast; rfl,
      index_apply_of_lt _ (biggest + 1) (by omega), List.get_eq_getElem, byteAt, taggedPayload_biggest_succ short]
  have lenSmall : payloads[j].len < 2 ^ 16 := by
    have := room
    simp only [maxPacketBufferSize] at this
    omega
  generalize recoveredDef : (⟨((Slice.ofList buffer).data ++ (Slice.ofList buffer).spare).take payloads[j].len,
      ((Slice.ofList buffer).data ++ (Slice.ofList buffer).spare).drop payloads[j].len⟩ : Slice UInt8) = recovered
  have sliced : (Slice.ofList buffer).sliceTo ((lengthHighByte payloads[j].len).toNat * 256 +
      (lengthLowByte payloads[j].len).toNat : Nat) b = (.ok recovered b : Result Block (Slice UInt8)) := by
    rw [lengthBytes_toNat lenSmall, ← recoveredDef]
    exact Slice.sliceTo_apply_of_le _ _ (by rw [Slice.cap_ofList]; omega) b
  have recoveredData : recovered.data = payloads[j].data := by
    have length : payloads[j].len = payloads[j].data.length := rfl
    rw [← recoveredDef]
    apply List.ext_getElem
    · simp only [Slice.ofList, List.append_nil, List.length_take]
      omega
    intro i inside dataInside
    simp only [Slice.ofList, List.append_nil, List.getElem_take, byteAt]
    exact taggedPayload_of_lt short dataInside
  have smallest : b.smallestSSID = id * UInt64.ofNat payloads.length := by
    rw [holds.range.smallestSSID, Block.newBlock_smallestSSID]
  have count : ssidLoopCount b = payloads.length := by
    rw [ssidLoopCount_of_sameRange holds.range, Block.ssidLoopCount_newBlock nonempty fits]
  have present : ∀ i < payloads.length, i ≠ j →
      id * UInt64.ofNat payloads.length + UInt64.ofNat i ∈ b.ssidToSourcePayload := by
    intro i inside other
    have frameInside : i < (sourceSymbolFrames id payloads).length := by simpa using inside
    rw [mem_iff_of_entries_perm sources]
    refine ⟨sourceEntry (sourceSymbolFrames id payloads)[i], List.mem_map_of_mem ?_, ?_⟩
    · exact List.mem_eraseIdx_iff_getElem.mpr ⟨i, frameInside, other, rfl⟩
    · simp [sourceEntry]
  have absent : id * UInt64.ofNat payloads.length + UInt64.ofNat j ∉ b.ssidToSourcePayload := by
    rw [mem_iff_of_entries_perm sources]
    rintro ⟨_, member, same⟩
    obtain ⟨f, fOther, rfl⟩ := List.mem_map.mp member
    obtain ⟨i, inside, other, rfl⟩ := List.mem_eraseIdx_iff_getElem.mp fOther
    have jInside : j < (sourceSymbolFrames id payloads).length := by simpa using missing
    exact other (ssid_injective fits inside jInside (by simpa [sourceEntry] using same))
  have fill := fillMissing_eq_insert recovered payloads.length j (id * UInt64.ofNat payloads.length)
    b.ssidToSourcePayload missing present absent
  have completeAfter : ((b.ssidToSourcePayload.insert (id * UInt64.ofNat payloads.length + UInt64.ofNat j)
      recovered).entries.length : Int) = b.totNumSourceSymbols := by
    rw [AList.entries_insert_of_notMem absent, List.length_cons, sources.length_eq, List.length_map, others, total]
    omega
  refine ⟨recoverable, ?_⟩
  unfold xorScheme recoverSymbolPayloads
  -- one stage of the call at a time: a single rewrite of all of them is slow to check
  simp only [Call.bind_apply, Call.get_apply, recoverable, incomplete, Bool.not_true, Bool.false_eq_true,
    if_false, Call.ite_apply]
  simp only [isBiggest, repairs, received, high, low]
  simp only [sliced, count, smallest, fill, Call.set_apply]
  have complete : ∀ b' : Block, b'.ssidToSourcePayload = b.ssidToSourcePayload.insert
      (id * UInt64.ofNat payloads.length + UInt64.ofNat j) recovered →
      b'.totNumSourceSymbols = b.totNumSourceSymbols → b'.isComplete = true := by
    intro b' sourcesEq totalEq
    rw [Block.isComplete_iff, sourcesEq, totalEq]
    exact completeAfter
  simp only [complete, Bool.not_true, Bool.false_eq_true, if_false, Call.pure_apply]
  exact ⟨_, _, rfl, recoveredData, complete _ rfl rfl, AList.lookup_insert _⟩

end Recovery

/-! ## The round trip -/

theorem sourceSymbols_rejected_of_wraps {id : BlockID} {payloads : List (Slice UInt8)}
    (nonempty : 0 < payloads.length) (isInt : payloads.length < 2 ^ 63)
    (wraps : 2 ^ 64 < (id * UInt64.ofNat payloads.length).toNat + payloads.length) :
    ∃ message b, Call.forEach Block.addSourceSymbol (sourceSymbolFrames id payloads)
      (Block.newBlock id payloads.length 1) = .error message b := by
  obtain ⟨first, rest, rfl⟩ := List.exists_cons_of_ne_nil (List.ne_nil_of_length_pos nonempty)
  have wrapped : (Block.newBlock id (first :: rest).length 1).largestSSID <
      (Block.newBlock id (first :: rest).length 1).smallestSSID := Block.newBlock_largestSSID_lt_of_wraps isInt wraps
  have firstSSID : id * UInt64.ofNat (first :: rest).length + UInt64.ofNat 0 =
      (Block.newBlock id (first :: rest).length 1).smallestSSID := by
    rw [Block.newBlock_smallestSSID]
    simp
  have rejected : Block.addSourceSymbol ⟨id * UInt64.ofNat (first :: rest).length + UInt64.ofNat 0, first⟩
      (Block.newBlock id (first :: rest).length 1) =
      .error "source symbol was provided to the wrong block" (Block.newBlock id (first :: rest).length 1) := by
    rw [Block.addSourceSymbol, if_pos (by simp only [firstSSID, Bool.or_eq_true, decide_eq_true_eq]; exact .inr wrapped)]
  refine ⟨"source symbol was provided to the wrong block", Block.newBlock id (first :: rest).length 1, ?_⟩
  rw [sourceSymbolFrames, List.mapIdx_cons, Call.forEach]
  exact Call.bind_of_error rejected

end QuicFec.Fec
