import QuicFec.Packer.Payload

/-! # Writing a packet

`packet_packer.go`: `appendPacketPayload` serializes a payload, wrapping its
FEC-protected frames into one SOURCE_SYMBOL frame and queueing the REPAIR
frames the FEC sender returns for it; `appendShortHeaderPacket` and
`appendLongHeaderPacket` put a header in front, check the size and seal the
packet; `AppendPacket` is the 1-RTT entry point the connection calls.

What a packet reports to loss recovery is the `ShortHeaderPacket` record; the
bytes it puts on the wire are returned next to it (`buffer.Data` grows by
them).

On a sized payload `appendPacketPayload` writes the padding, `pl.length` bytes
of frames and the SOURCE_SYMBOL header, so its size check never fires; the
header fits the room `composeNextPacket` keeps for FEC-protected STREAM
frames.  Two runs at the end show where this stops: a FEC-protected DATAGRAM
frame gets no such room, and the frames inside the SOURCE_SYMBOL frame are not
reported with the packet. -/
set_option autoImplicit false

namespace QuicFec

open Go QuicFec.Protocol QuicFec.Wire

def errNothingToPack : String := "nothing to pack"

structure ShortHeaderPacket where
  packetNumber : PacketNumber
  frames : List Ackhandler.Frame
  streamFrames : List Ackhandler.StreamFrame
  ack : Option AckFrame
  length : Nat
  isPathMTUProbePacket : Bool
  destConnID : List UInt8
  packetNumberLen : Nat
  keyPhaseOne : Bool
deriving DecidableEq

structure LongHeaderPacket where
  header : ExtendedHeader
  ack : Option AckFrame
  frames : List Ackhandler.Frame
  streamFrames : List Ackhandler.StreamFrame
  length : Nat
deriving DecidableEq

/-- `packetPacker.encryptPacket`: seal everything after the header, which
grows by the sealer's overhead. -/
def encryptPacket (raw : List UInt8) (sealer : Sealer) (pn : PacketNumber) (payloadOffset : Nat) :
    List UInt8 :=
  raw.take payloadOffset ++ sealer.sealPayload pn (raw.take payloadOffset) (raw.drop payloadOffset)

/-- The padding both header kinds add: enough for the header protection
sample (`len(payload) + pnLen ≥ 4`), plus what the caller asked for. -/
def paddingFor (plLength pnLen padding : Int) : Int :=
  (if plLength < 4 - pnLen then 4 - pnLen - plLength else 0) + padding

namespace Packer

variable {E : Type} (c : Components E)

/-- The control frames in the order they are written: `p.rand.Shuffle`
reorders them in place when there are at least two, and the caller's
`pl.frames` sees the new order. -/
def shuffledFrames (frames : List Ackhandler.Frame) : List Ackhandler.Frame :=
  if frames.length > 1 then c.shuffle frames else frames

/-- `if pl.ack != nil { raw, err = pl.ack.Append(raw, v) }`. -/
def appendAck : Option AckFrame → List UInt8 → Call (Packer E) (List UInt8)
  | none, raw => pure raw
  | some ack, raw => ack.append raw

/-- `for _, f := range repairFrames { p.repairQueue.Add(f) }`. -/
def queueRepairFrames : List RepairFrame → Call (Packer E) Unit
  | [] => pure ()
  | f :: rest => do
      onRepairQueue (RepairQueue.add f)
      queueRepairFrames rest

/-- The FEC block of `appendPacketPayload`: serialize the FEC-protected frames
into the payload of a SOURCE_SYMBOL frame with the sender's next SSID, give it
to `AddSourceSymbolFrame`, queue the REPAIR frames that returns, and write the
SOURCE_SYMBOL frame.  Also returns `ssf.HeaderLen()`. -/
def appendSourceSymbolFrame (raw : List UInt8) (pl : Payload) :
    Call (Packer E) (List UInt8 × Nat) := do
  let payload ← Call.appendEach (fun f => f.frame.append) pl.fecFrames []
  let payload ← Call.appendEach (fun f => (Frame.stream f.frame).append) pl.fecStreamFrames payload
  let ssid ← throughSender fun _ => Fec.Manager.nextSSID
  let ssf : SourceSymbolFrame := ⟨ssid, Slice.ofList payload⟩
  let repairFrames ← throughSender fun scheme => Fec.Manager.addSourceSymbolFrame scheme ssf
  queueRepairFrames repairFrames
  let raw ← ssf.append raw
  return (raw, ssf.headerLen)

/-- The writing half of `packetPacker.appendPacketPayload`: the ACK, the
padding, the control frames, the STREAM frames, then the SOURCE_SYMBOL frame
if there are FEC-protected frames (`fecEnabled`), with its `HeaderLen()`. -/
def appendPayloadFrames (raw : List UInt8) (pl : Payload) (paddingLen : Int) :
    Call (Packer E) (List UInt8 × Option Nat) := do
  let raw ← appendAck pl.ack raw
  let raw := if paddingLen > 0 then raw ++ List.replicate paddingLen.toNat 0 else raw
  let raw ← Call.appendEach (fun f => f.frame.append) (shuffledFrames c pl.frames) raw
  let raw ← Call.appendEach (fun f => (Frame.stream f.frame).append) pl.streamFrames raw
  if !pl.fecStreamFrames.isEmpty || !pl.fecFrames.isEmpty then
    let (raw, sourceSymbolHeaderLen) ← appendSourceSymbolFrame raw pl
    return (raw, some sourceSymbolHeaderLen)
  else return (raw, none)

/-- `packetPacker.appendPacketPayload`: the frames, then the check that the
bytes written, less the padding and the SOURCE_SYMBOL header, are `pl.length`. -/
def appendPacketPayload (raw : List UInt8) (pl : Payload) (paddingLen : Int) :
    Call (Packer E) (List UInt8) := do
  let payloadOffset := raw.length
  let (raw, sourceSymbolHeaderLen?) ← appendPayloadFrames c raw pl paddingLen
  match sourceSymbolHeaderLen? with
  | some sourceSymbolHeaderLen =>
    let payloadSize : Int := (raw.length : Int) - payloadOffset - paddingLen - sourceSymbolHeaderLen
    if payloadSize ≠ pl.length then
      let expected := pl.length
      Call.fail s!"PacketPacker FEC BUG: payload size inconsistent (expected {expected}, got {payloadSize} bytes)"
    else return raw
  | none =>
    let payloadSize : Int := (raw.length : Int) - payloadOffset - paddingLen
    if payloadSize ≠ pl.length then
      let expected := pl.length
      Call.fail s!"PacketPacker BUG: payload size inconsistent (expected {expected}, got {payloadSize} bytes)"
    else return raw

def appendShortHeaderPacket (connID : List UInt8) (pn : PacketNumber) (pnLen : Nat)
    (keyPhaseOne : Bool) (pl : Payload) (padding maxPacketSize : Int) (sealer : Sealer)
    (isMTUProbePacket : Bool) : Call (Packer E) (ShortHeaderPacket × List UInt8) := do
  let paddingLen := paddingFor pl.length pnLen padding
  let raw ← appendShortHeader [] connID pn pnLen keyPhaseOne
  let payloadOffset := raw.length
  let frames := shuffledFrames c pl.frames
  let raw ← appendPacketPayload c raw pl paddingLen
  let size : Int := raw.length + sealer.overhead
  if !isMTUProbePacket && size > maxPacketSize then
    Call.fail s!"PacketPacker BUG: packet too large ({size} bytes, allowed {maxPacketSize} bytes)"
  else
    let raw := encryptPacket raw sealer pn payloadOffset
    let newPN ← onEnv c.popPacketNumber
    if newPN ≠ pn then
      Call.fail s!"packetPacker BUG: Peeked and Popped packet numbers do not match: expected {pn}, got {newPN}"
    else
      return ({ packetNumber := pn
                packetNumberLen := pnLen
                keyPhaseOne := keyPhaseOne
                streamFrames := pl.streamFrames
                frames := frames
                ack := pl.ack
                length := raw.length
                destConnID := connID
                isPathMTUProbePacket := isMTUProbePacket }, raw)

/-- `packetPacker.appendLongHeaderPacket`, for the 0-RTT packets that carry
application data: the `Length` field is computed from `pl.length` before the
payload is written. -/
def appendLongHeaderPacket (header : ExtendedHeader) (pl : Payload) (padding : Int)
    (sealer : Sealer) : Call (Packer E) (LongHeaderPacket × List UInt8) := do
  let pnLen : Int := header.packetNumberLen
  let paddingLen := paddingFor pl.length pnLen padding
  let header := { header with length := (pnLen + sealer.overhead + pl.length + paddingLen).toNat }
  let raw ← header.append []
  let payloadOffset := raw.length
  let frames := shuffledFrames c pl.frames
  let raw ← appendPacketPayload c raw pl paddingLen
  let raw := encryptPacket raw sealer header.packetNumber payloadOffset
  let pn ← onEnv c.popPacketNumber
  if pn ≠ header.packetNumber then
    let peeked := header.packetNumber
    Call.fail s!"packetPacker BUG: Peeked and Popped packet numbers do not match: expected {pn}, got {peeked}"
  else
    return (⟨header, pl.ack, frames, pl.streamFrames, raw.length⟩, raw)

def maybeGetShortHeaderPacket (sealer : Sealer) (hdrLen : Nat) (maxPacketSize : Int)
    (onlyAck ackAllowed : Bool) : Call (Packer E) Payload :=
  maybeGetAppDataPacket c (maxPacketSize - hdrLen - sealer.overhead) onlyAck ackAllowed

/-- `packetPacker.appendPacket`, which `AppendPacket` calls with `onlyAck = false`. -/
def appendPacket (onlyAck : Bool) (maxPacketSize : Int) :
    Call (Packer E) (ShortHeaderPacket × List UInt8) := do
  let p ← Call.get
  match c.get1RTTSealer p.env with
  | .error e => Call.fail e
  | .ok sealer =>
      let (pn, pnLen) := c.peekPacketNumber p.env
      let connID := c.getDestConnID p.env
      let hdrLen := shortHeaderLen connID pnLen
      let pl ← maybeGetShortHeaderPacket c sealer hdrLen maxPacketSize onlyAck true
      if pl.length = 0 then Call.fail errNothingToPack
      else appendShortHeaderPacket c connID pn pnLen sealer.keyPhaseOne pl 0 maxPacketSize sealer false

/-! ## What `appendPacketPayload` writes

Every frame takes its `Length` on the wire, so the bytes `appendPacketPayload`
writes for a payload are the padding, the frames and the SOURCE_SYMBOL header;
on a sized payload its size check never fails. -/

theorem appendAck_writes (ack : Option AckFrame) :
    Call.Writes (@appendAck E ack) ((ack.map AckFrame.length).getD 0) := by
  cases ack with
  | none => exact Call.writes_pure
  | some a => exact a.append_writes

theorem shuffledFrames_length (frames : List Ackhandler.Frame) :
    ((shuffledFrames c frames).map (·.frame.length)).sum = (frames.map (·.frame.length)).sum := by
  unfold shuffledFrames
  split_ifs
  · exact ((c.shuffle_perm frames).map _).sum_eq
  · rfl

theorem appendSourceSymbolFrame_writes {raw raw' : List UInt8} {pl : Payload} {headerLen : Nat}
    {p p' : Packer E} (run : appendSourceSymbolFrame raw pl p = .ok (raw', headerLen) p') :
    ∃ written, raw' = raw ++ written ∧
      written.length = headerLen + ((pl.fecFrames.map (·.frame.length)).sum +
        (pl.fecStreamFrames.map (·.frame.length)).sum) ∧
      ((pl.fecFrames.map (·.frame.length)).sum + (pl.fecStreamFrames.map (·.frame.length)).sum ≤
        Quicvarint.maxVarInt2 → headerLen ≤ maxFECHeaderOverhead) := by
  unfold appendSourceSymbolFrame at run
  obtain ⟨payload₁, p₁, fecCall, run₁⟩ := Call.bind_eq_ok.mp run
  obtain ⟨-, _, rfl, length₁⟩ := Call.writes_appendEach (fun f : Ackhandler.Frame => f.frame.length)
    pl.fecFrames (fun f _ => Frame.append_writes f.frame) [] p payload₁ p₁ fecCall
  obtain ⟨payload, p₂, fecStreamCall, run₂⟩ := Call.bind_eq_ok.mp run₁
  obtain ⟨-, written₂, rfl, length₂⟩ := Call.writes_appendEach (fun f : Ackhandler.StreamFrame => f.frame.length)
    pl.fecStreamFrames (fun f _ => Frame.append_writes (.stream f.frame)) _ _ _ _ fecStreamCall
  obtain ⟨ssid, p₃, -, run₃⟩ := Call.bind_eq_ok.mp run₂
  obtain ⟨repairFrames, p₄, -, run₄⟩ := Call.bind_eq_ok.mp run₃
  obtain ⟨⟨⟩, p₅, -, run₅⟩ := Call.bind_eq_ok.mp run₄
  obtain ⟨raw₁, p₆, ssfCall, run₆⟩ := Call.bind_eq_ok.mp run₅
  obtain ⟨-, written, rfl, length⟩ := SourceSymbolFrame.append_writes _ _ _ _ _ ssfCall
  simp only [Call.pure_apply, Result.ok.injEq, Prod.mk.injEq] at run₆
  obtain ⟨⟨rfl, rfl⟩, -⟩ := run₆
  have payloadLen : (Slice.ofList (payload₁ ++ written₂)).len =
      (pl.fecFrames.map (·.frame.length)).sum + (pl.fecStreamFrames.map (·.frame.length)).sum := by
    rw [Slice.len_ofList, List.length_append, length₁, length₂]
  refine ⟨written, rfl, ?_, fun short => SourceSymbolFrame.headerLen_le _ (payloadLen ▸ short)⟩
  rw [length, SourceSymbolFrame.length_eq, payloadLen]

theorem appendPayloadFrames_writes {raw raw' : List UInt8} {pl : Payload} {paddingLen : Int}
    {headerLen? : Option Nat} {p p' : Packer E}
    (run : appendPayloadFrames c raw pl paddingLen p = .ok (raw', headerLen?) p') :
    ∃ written, raw' = raw ++ written ∧ written.length = paddingLen.toNat + pl.framesLength + headerLen?.getD 0 ∧
      (pl.framesLength ≤ Quicvarint.maxVarInt2 → ∀ h ∈ headerLen?, h ≤ maxFECHeaderOverhead) ∧
      (pl.fecFrames = [] → pl.fecStreamFrames = [] → headerLen? = none) := by
  unfold appendPayloadFrames at run
  obtain ⟨raw₁, p₁, ackCall, run₁⟩ := Call.bind_eq_ok.mp run
  obtain ⟨-, ackWritten, rfl, ackLength⟩ := appendAck_writes pl.ack _ _ _ _ ackCall
  have padded : (if paddingLen > 0 then raw ++ ackWritten ++ List.replicate paddingLen.toNat 0 else raw ++ ackWritten) =
      raw ++ (ackWritten ++ List.replicate paddingLen.toNat 0) := by
    split_ifs with positive
    · rw [List.append_assoc]
    · rw [show paddingLen.toNat = 0 by omega, List.replicate_zero, List.append_nil]
  rw [padded] at run₁
  obtain ⟨raw₂, p₂, framesCall, run₂⟩ := Call.bind_eq_ok.mp run₁
  obtain ⟨-, framesWritten, rfl, framesLength⟩ := Call.writes_appendEach (fun f : Ackhandler.Frame => f.frame.length)
    _ (fun f _ => Frame.append_writes f.frame) _ _ _ _ framesCall
  obtain ⟨raw₃, p₃, streamCall, run₃⟩ := Call.bind_eq_ok.mp run₂
  obtain ⟨-, streamWritten, rfl, streamLength⟩ :=
    Call.writes_appendEach (fun f : Ackhandler.StreamFrame => f.frame.length)
      _ (fun f _ => Frame.append_writes (.stream f.frame)) _ _ _ _ streamCall
  rw [shuffledFrames_length] at framesLength
  by_cases fec : (!pl.fecStreamFrames.isEmpty || !pl.fecFrames.isEmpty) = true
  · rw [if_pos fec] at run₃
    obtain ⟨⟨raw₄, headerLen⟩, p₄, ssfCall, run₄⟩ := Call.bind_eq_ok.mp run₃
    obtain ⟨ssfWritten, rfl, ssfLength, headerFits⟩ := appendSourceSymbolFrame_writes ssfCall
    simp only [Call.pure_apply, Result.ok.injEq, Prod.mk.injEq] at run₄
    obtain ⟨⟨rfl, rfl⟩, -⟩ := run₄
    refine ⟨ackWritten ++ List.replicate paddingLen.toNat 0 ++ framesWritten ++ streamWritten ++ ssfWritten,
      by simp, ?_, fun short h member => ?_, fun noFec noFecStream => ?_⟩
    · simp only [List.length_append, List.length_replicate, ackLength, framesLength, streamLength, ssfLength,
        Payload.framesLength, Option.getD_some]
      omega
    · rw [Option.mem_some_iff] at member
      subst member
      exact headerFits (by unfold Payload.framesLength at short; omega)
    · simp [noFec, noFecStream] at fec
  · rw [if_neg fec] at run₃
    simp only [Call.pure_apply, Result.ok.injEq, Prod.mk.injEq] at run₃
    obtain ⟨⟨rfl, rfl⟩, -⟩ := run₃
    have noFec : pl.fecStreamFrames = [] ∧ pl.fecFrames = [] := by simpa using fec
    refine ⟨ackWritten ++ List.replicate paddingLen.toNat 0 ++ framesWritten ++ streamWritten, by simp, ?_,
      fun _ h member => absurd member (Option.not_mem_none h), fun _ _ => rfl⟩
    simp only [List.length_append, List.length_replicate, ackLength, framesLength, streamLength,
      Payload.framesLength, noFec, List.map_nil, List.sum_nil, Option.getD_none]
    omega

theorem appendPacketPayload_eq {raw : List UInt8} {pl : Payload} {paddingLen : Int} (sized : pl.Sized)
    (padding : 0 ≤ paddingLen) :
    appendPacketPayload c raw pl paddingLen = (appendPayloadFrames c raw pl paddingLen >>= fun written => pure written.1) := by
  funext p
  unfold appendPacketPayload
  simp only [Call.bind_apply]
  cases framesRun : appendPayloadFrames c raw pl paddingLen p with
  | ok written p' =>
    obtain ⟨raw', headerLen?⟩ := written
    obtain ⟨w, rfl, length, -, -⟩ := appendPayloadFrames_writes c framesRun
    unfold Payload.Sized at sized
    cases headerLen? with
    | none =>
      simp only [Option.getD_none] at length
      simp only [List.length_append, length]
      rw [if_neg (by omega)]
    | some h =>
      simp only [Option.getD_some] at length
      simp only [List.length_append, length]
      rw [if_neg (by omega)]
  | error e p' => rfl
  | panic m => rfl

/-- On a sized payload and a padding of at least nothing, `appendPacketPayload`
fails only where writing its frames fails, and it writes the padding,
`pl.length` bytes of frames and, for FEC-protected frames only, a
SOURCE_SYMBOL header, of at most `MaxFECHeaderOverhead` bytes when the frames
fit a two-byte varint. -/
theorem appendPacketPayload_writes_length {raw : List UInt8} {pl : Payload} {paddingLen : Int}
    (sized : pl.Sized) (padding : 0 ≤ paddingLen) :
    appendPacketPayload c raw pl paddingLen = (appendPayloadFrames c raw pl paddingLen >>= fun written => pure written.1) ∧
      ∀ p raw' headerLen? p', appendPayloadFrames c raw pl paddingLen p = .ok (raw', headerLen?) p' →
        ∃ written, raw' = raw ++ written ∧
          (written.length : Int) = paddingLen + pl.length + (headerLen?.getD 0 : Nat) ∧
          (pl.length ≤ Quicvarint.maxVarInt2 → ∀ h ∈ headerLen?, h ≤ maxFECHeaderOverhead) ∧
          (pl.fecFrames = [] → pl.fecStreamFrames = [] → headerLen? = none) := by
  refine ⟨appendPacketPayload_eq c sized padding, fun p raw' headerLen? p' run => ?_⟩
  obtain ⟨written, rfl, length, headerFits, noHeader⟩ := appendPayloadFrames_writes c run
  unfold Payload.Sized at sized
  exact ⟨written, rfl, by omega, fun short => headerFits (by omega), noHeader⟩

/-- A sealer with the 16-byte tag of AES-GCM. -/
def gcmSealer : Sealer where
  keyPhaseOne := false
  overhead := 16
  sealPayload _ _ payload := payload ++ List.replicate 16 0
  length_sealPayload _ _ _ := by simp

/-- Components with no ACK to send: packet number 0 in two bytes, a
four-byte connection ID. -/
def idleComponents : Components Unit where
  getAckFrame _ e := (none, e)
  peekPacketNumber _ := (0, 2)
  popPacketNumber e := (0, e)
  getDestConnID _ := [1, 2, 3, 4]
  get1RTTSealer _ := .ok gcmSealer
  shuffle frames := frames
  shuffle_perm _ := List.Perm.refl _

/-- A payload of one PING frame. -/
def pingPayload : Payload := { Payload.empty with frames := [⟨.ping, none⟩], length := 1 }

theorem appendPacketPayload_writes_length_ping :
    pingPayload.Sized ∧ (0 : Int) ≤ 2 ∧
      (appendPacketPayload idleComponents [] pingPayload 2 =
          (appendPayloadFrames idleComponents [] pingPayload 2 >>= fun written => pure written.1) ∧
        ∀ p raw' headerLen? p', appendPayloadFrames idleComponents [] pingPayload 2 p = .ok (raw', headerLen?) p' →
          ∃ written, raw' = [] ++ written ∧
            (written.length : Int) = 2 + pingPayload.length + (headerLen?.getD 0 : Nat) ∧
            (pingPayload.length ≤ Quicvarint.maxVarInt2 → ∀ h ∈ headerLen?, h ≤ maxFECHeaderOverhead) ∧
            (pingPayload.fecFrames = [] → pingPayload.fecStreamFrames = [] → headerLen? = none)) :=
  ⟨rfl, by decide, appendPacketPayload_writes_length idleComponents rfl (by decide)⟩

/-! ## What writing a packet leaves alone

Writing a packet takes its frames from the payload and never calls the
framer: besides the buffer, it reaches only the packet number manager, the FEC
sender and the repair queue. -/

theorem appendEachFrame_keeps (fs : List Ackhandler.Frame) (b : List UInt8) :
    Call.Keeps (Call.appendEach (fun f => f.frame.append) fs b : Call (Packer E) _) :=
  Call.keeps_appendEach (fun f b => Frame.append_keeps f.frame b) fs b

theorem appendEachStreamFrame_keeps (fs : List Ackhandler.StreamFrame) (b : List UInt8) :
    Call.Keeps (Call.appendEach (fun f => (Frame.stream f.frame).append) fs b : Call (Packer E) _) :=
  Call.keeps_appendEach (fun f b => Frame.append_keeps (.stream f.frame) b) fs b

theorem onEnv_preserves_framer {α : Type} (x : E → α × E) :
    Call.Preserves Packer.framer (onEnv x : Call (Packer E) α) := by
  intro p p' ended
  simp only [onEnv, Result.state?, Option.some.injEq] at ended
  rw [← ended]

theorem throughSender_preserves_framer {α : Type} (x : Fec.BlockFECScheme → Call Fec.Manager α) :
    Call.Preserves Packer.framer (throughSender x : Call (Packer E) α) := by
  intro p p' ended
  unfold throughSender at ended
  split at ended
  · cases ended
  · split at ended <;> simp only [Result.state?, Option.some.injEq, reduceCtorEq] at ended <;> rw [← ended]

theorem queueRepairFrames_preserves_framer :
    ∀ fs : List RepairFrame, Call.Preserves Packer.framer (queueRepairFrames (E := E) fs)
  | [] => (Call.keeps_pure ()).preserves _
  | f :: rest => by
    unfold queueRepairFrames
    exact .bind (Call.preserves_focus _ _ (RepairQueue.add f) fun _ _ => rfl) fun _ =>
      queueRepairFrames_preserves_framer rest

theorem appendSourceSymbolFrame_preserves_framer (raw : List UInt8) (pl : Payload) :
    Call.Preserves Packer.framer (appendSourceSymbolFrame raw pl : Call (Packer E) _) := by
  unfold appendSourceSymbolFrame
  refine .bind ((appendEachFrame_keeps _ _).preserves _) fun payload => ?_
  refine .bind ((appendEachStreamFrame_keeps _ _).preserves _) fun payload => ?_
  refine .bind (throughSender_preserves_framer _) fun ssid => ?_
  refine .bind (throughSender_preserves_framer _) fun repairFrames => ?_
  refine .bind (queueRepairFrames_preserves_framer repairFrames) fun _ => ?_
  exact .bind ((SourceSymbolFrame.append_keeps _ _).preserves _) fun raw => (Call.keeps_pure _).preserves _

theorem appendPayloadFrames_preserves_framer (raw : List UInt8) (pl : Payload) (paddingLen : Int) :
    Call.Preserves Packer.framer (appendPayloadFrames c raw pl paddingLen) := by
  unfold appendPayloadFrames
  refine .bind (?_ : Call.Preserves Packer.framer (appendAck pl.ack raw)) fun raw => ?_
  · cases pl.ack with
    | none => exact (Call.keeps_pure _).preserves _
    | some ack => exact (ack.append_keeps raw).preserves _
  refine .bind ((appendEachFrame_keeps _ _).preserves _) fun raw => ?_
  refine .bind ((appendEachStreamFrame_keeps _ _).preserves _) fun raw => ?_
  refine Call.preserves_ite _ ?_ ((Call.keeps_pure _).preserves _)
  exact .bind (appendSourceSymbolFrame_preserves_framer raw pl) fun _ => (Call.keeps_pure _).preserves _

theorem appendPacketPayload_preserves_framer (raw : List UInt8) (pl : Payload) (paddingLen : Int) :
    Call.Preserves Packer.framer (appendPacketPayload c raw pl paddingLen) := by
  unfold appendPacketPayload
  refine .bind (appendPayloadFrames_preserves_framer c raw pl paddingLen) fun ⟨raw', headerLen?⟩ => ?_
  cases headerLen? <;> exact (Call.keeps_ite _ (Call.keeps_fail _) (Call.keeps_pure _)).preserves _

theorem appendShortHeaderPacket_preserves_framer (connID : List UInt8) (pn : PacketNumber) (pnLen : Nat)
    (keyPhaseOne : Bool) (pl : Payload) (padding maxPacketSize : Int) (sealer : Sealer) (isMTUProbePacket : Bool) :
    Call.Preserves Packer.framer
      (appendShortHeaderPacket c connID pn pnLen keyPhaseOne pl padding maxPacketSize sealer isMTUProbePacket) := by
  unfold appendShortHeaderPacket
  refine .bind ((appendShortHeader_keeps _ _ _ _ _).preserves _) fun raw => ?_
  refine .bind (appendPacketPayload_preserves_framer c _ pl _) fun raw' => ?_
  refine Call.preserves_ite _ ((Call.keeps_fail _).preserves _) ?_
  exact .bind (onEnv_preserves_framer _) fun _ => (Call.keeps_ite _ (Call.keeps_fail _) (Call.keeps_pure _)).preserves _

/-- For packets of at most `MaxPacketBufferSize` bytes, `AppendPacket` keeps
the framer ready, whether it returns a packet or an error: the payload is
composed with the framer's invariant, and the packet is written around it. -/
theorem appendPacket_ready {maxPacketSize : Int} (small : maxPacketSize ≤ maxPacketBufferSize) (onlyAck : Bool) :
    Call.Invariant (fun p : Packer E => p.framer.Ready) (appendPacket c onlyAck maxPacketSize) := by
  unfold appendPacket
  refine .bind ((Call.keeps_get.preserves Packer.framer).invariant Sending.Ready) fun p => ?_
  split
  · exact ((Call.keeps_fail _).preserves _).invariant _
  · refine .bind (maybeGetAppDataPacket_ready c ?_ onlyAck true) fun pl => ?_
    · -- the payload's budget is the packet's less the header and the AEAD overhead
      omega
    · exact Call.invariant_ite (pl.length = 0) (((Call.keeps_fail _).preserves _).invariant _)
        ((appendShortHeaderPacket_preserves_framer c _ _ _ _ _ _ _ _ _).invariant _)

/-! ## The room `composeNextPacket` keeps for the SOURCE_SYMBOL header

`composeNextPacket` asks the framer for STREAM frames within `maxFrameSize`
less `MaxFECHeaderOverhead` when it has a FEC sender, so a payload whose only
FEC-protected frames are STREAM frames fits `maxFrameSize` once it is written.
The other FEC-protected frames, DATAGRAM frames, get no such room (next
section). -/

theorem composeNextPacket_fecHeader_fits {maxFrameSize : Int} (small : maxFrameSize ≤ maxPacketBufferSize)
    {onlyAck ackAllowed : Bool} {p p₁ p₂ p₃ : Packer E} {pl : Payload} {raw raw' : List UInt8}
    {paddingLen : Int} (ready : p.framer.Ready)
    (compose : composeNextPacket c maxFrameSize onlyAck ackAllowed p = .ok pl p₁)
    (noFecDatagram : pl.fecFrames = []) (padding : 0 ≤ paddingLen)
    (append : appendPacketPayload c raw pl paddingLen p₂ = .ok raw' p₃) :
    ∃ written, raw' = raw ++ written ∧
      (pl.fecStreamFrames = [] → (written.length : Int) = paddingLen + pl.length) ∧
      (pl.fecStreamFrames ≠ [] → (written.length : Int) ≤ paddingLen + maxFrameSize) := by
  obtain ⟨sized, -, reserved⟩ := composeNextPacket_spec c small ready compose
  rw [appendPacketPayload_eq c sized padding] at append
  obtain ⟨⟨raw₁, headerLen?⟩, p₄, framesRun, pureRun⟩ := Call.bind_eq_ok.mp append
  obtain ⟨rfl, -⟩ := Call.pure_eq_ok.mp pureRun
  obtain ⟨written, rfl, length, headerFits, noHeader⟩ := appendPayloadFrames_writes c framesRun
  unfold Payload.Sized at sized
  refine ⟨written, rfl, fun noFecStream => ?_, fun fecStream => ?_⟩
  · rw [noHeader noFecDatagram noFecStream, Option.getD_none] at length
    omega
  · have room := reserved fecStream
    unfold maxPacketBufferSize at small
    unfold maxFECHeaderOverhead at room
    cases headerLen? with
    | none =>
      rw [Option.getD_none] at length
      omega
    | some h =>
      have short : pl.framesLength ≤ Quicvarint.maxVarInt2 := by
        unfold Quicvarint.maxVarInt2
        omega
      have header : h ≤ 18 := headerFits short h rfl
      rw [Option.getD_some] at length
      omega

/-- A framer with no stream and nothing queued, and a connection flow
control window of `window` bytes. -/
def idleSending (window : Nat) : Sending := ⟨Framer.newFramer, ∅, Flowcontrol.SendFlowController.init window⟩

theorem ready_idleSending (window : Nat) : (idleSending window).Ready :=
  ⟨Framer.scheduled_newFramer, (fun _ _ found => nomatch found), Flowcontrol.SendFlowController.within_init window⟩

/-- A client packer with the XOR sender of `fec.NewSender(XORFECScheme)` and
nothing to send. -/
def idlePacker : Packer Unit where
  env := ()
  perspective := .client
  framer := idleSending 0
  retransmissionQueue := ⟨[]⟩
  repairQueue := ⟨[]⟩
  datagramQueue := ⟨[]⟩
  fecSender := some (Fec.xorScheme, ⟨0, 2, 1, ∅⟩)
  numNonAckElicitingAcks := 0

theorem composeNextPacket_fecHeader_fits_idle :
    (1229 : Int) ≤ maxPacketBufferSize ∧ idlePacker.framer.Ready ∧
      composeNextPacket idleComponents 1229 false true idlePacker = .ok Payload.empty idlePacker ∧
      Payload.empty.fecFrames = [] ∧ (0 : Int) ≤ 0 ∧
      appendPacketPayload idleComponents [] Payload.empty 0 idlePacker = .ok [] idlePacker ∧
      ∃ written, ([] : List UInt8) = [] ++ written ∧
        (Payload.empty.fecStreamFrames = [] → (written.length : Int) = 0 + Payload.empty.length) ∧
        (Payload.empty.fecStreamFrames ≠ [] → (written.length : Int) ≤ 0 + 1229) :=
  ⟨by decide, ready_idleSending 0, rfl, rfl, le_refl 0, rfl,
    composeNextPacket_fecHeader_fits idleComponents (by decide) (ready_idleSending 0)
      (rfl : composeNextPacket idleComponents 1229 false true idlePacker = .ok Payload.empty idlePacker) rfl
      (le_refl 0) (rfl : appendPacketPayload idleComponents [] Payload.empty 0 idlePacker = .ok [] idlePacker)⟩

/-! ## A FEC-protected DATAGRAM frame that fills the packet

`composeNextPacket` admits a DATAGRAM frame when its length fits the payload
budget `maxFrameSize - pl.length`, with no room kept for the SOURCE_SYMBOL
header that `appendPacketPayload` then wraps around a FEC-protected one. -/

/-- What `SendDatagramWithFEC` queues for 1226 bytes of application data. -/
def fullFECDatagram : DatagramFrame := ⟨true, List.replicate 1226 0, true⟩

/-- A client packer with the XOR sender of `fec.NewSender(XORFECScheme)`, an
idle framer and one queued FEC-protected DATAGRAM frame. -/
def fecDatagramPacker : Packer Unit where
  env := ()
  perspective := .client
  framer := idleSending 0
  retransmissionQueue := ⟨[]⟩
  repairQueue := ⟨[]⟩
  datagramQueue := ⟨[fullFECDatagram]⟩
  fecSender := some (Fec.xorScheme, ⟨0, 2, 1, ∅⟩)
  numNonAckElicitingAcks := 0

/-- In a 1252-byte packet (`InitialPacketSizeIPv4`) with a 7-byte short header
and a 16-byte tag, the payload budget is 1229 bytes.  The DATAGRAM frame for
1226 bytes of data, which `SendDatagramWithFEC` accepts for a peer announcing
`MaxDatagramSize`, is exactly 1229 bytes long and is packed; wrapped into its
SOURCE_SYMBOL frame it makes a 1263-byte packet, and `AppendPacket` fails. -/
theorem appendPacket_fecDatagram_packet_too_large :
    fullFECDatagram.data.length ≤ (⟨true, [], true⟩ : DatagramFrame).maxDataLen maxDatagramSize ∧
    fullFECDatagram.length = 1252 - shortHeaderLen [1, 2, 3, 4] 2 - gcmSealer.overhead ∧
    (Result.value? (maybeGetShortHeaderPacket idleComponents gcmSealer 7 1252 false true
      fecDatagramPacker)).map Payload.length = some 1229 ∧
    Result.error? (appendPacket idleComponents false 1252 fecDatagramPacker) =
      some "PacketPacker BUG: packet too large (1263 bytes, allowed 1252 bytes)" := by
  refine ⟨by decide +kernel, by decide +kernel, ?_, by decide +kernel⟩
  decide +kernel

/-! ## A FEC-protected STREAM frame is not reported

`composeNextPacket` moves the STREAM frames of FEC-protected streams into
`pl.fecStreamFrames`, and `appendPacketPayload` writes them inside the
SOURCE_SYMBOL frame; the `shortHeaderPacket` that `appendShortHeaderPacket`
returns, which the connection hands to `SentPacket`, lists only
`pl.streamFrames` and `pl.frames`. -/

/-- A client packer with the XOR sender, nothing queued, and a FEC-protected
send stream 0 (`newSendStreamWithFEC`) with windows of 1000 bytes. -/
def fecStreamPacker : Packer Unit :=
  { fecDatagramPacker with
    framer := { idleSending 1000 with
      streams := AList.insert 0 (SendStream.newSendStreamWithFEC 0 (Flowcontrol.SendFlowController.init 1000) true) ∅ }
    datagramQueue := ⟨[]⟩ }

/-- The application writes three bytes on stream 0, which schedules it with
the framer.  The framer pops them in one FEC-protected STREAM frame, which
goes into the SOURCE_SYMBOL frame; the packet `AppendPacket` returns reports
no STREAM frame and no other frame, so `SentPacket` tracks nothing for the
popped frame and counts the packet as not ack-eliciting. -/
theorem appendPacket_fecStreamFrame_not_reported :
    (Result.value? ((onFramer (Sending.write 0 [1, 2, 3]) >>= fun _ =>
        maybeGetShortHeaderPacket idleComponents gcmSealer 7 1252 false true) fecStreamPacker)).map
      (fun pl => (pl.streamFrames.length, pl.fecStreamFrames.length)) = some (0, 1) ∧
    (Result.value? ((onFramer (Sending.write 0 [1, 2, 3]) >>= fun _ =>
        appendPacket idleComponents false 1252) fecStreamPacker)).map
      (fun packed => (packed.1.streamFrames.length, packed.1.frames.length)) = some (0, 0) := by
  decide +kernel

end Packer

end QuicFec
