import QuicFec.Packer.Append
import QuicFec.Lib.Run

/-! # The repair queue over a run of packets

Every SOURCE_SYMBOL frame the packer writes goes to the FEC sender, and the
REPAIR frames it returns for a completed block are appended to the repair
queue (`queueRepairFrames_apply`: all of them, or a panic once the queue holds
`maxRepairSendQueueLen`).  `composeNextPacket` takes at most the oldest queued
REPAIR frame per packet, and only if it fits next to what the packet already
holds; when it does not and the packet carries an ACK, it leaves the queue
alone (`addRepairFrame_of_no_room`).  The oldest frame then blocks all the
others.

A run of the packer is what reaches it from the connection: the application
writes on a send stream, whose `onHasStreamData` schedules it with the framer,
or the send loop packs a packet with `AppendPacket`; the run stops at the
first error. -/
set_option autoImplicit false

namespace QuicFec

open Go QuicFec.Protocol QuicFec.Wire

namespace Packer

variable {E : Type} (c : Components E)

/-- What reaches the packer from the connection. -/
inductive Event where
  /-- The application's `Write` on the send stream `id`. -/
  | write (id : Nat) (p : List UInt8)
  /-- The send loop's `AppendPacket(buf, false, maxPacketSize, v)`. -/
  | appendPacket (maxPacketSize : Int)

/-- One event. -/
def step : Event → Call (Packer E) Unit
  | .write id p => do let _ ← onFramer (Sending.write id p)
  | .appendPacket maxPacketSize => do let _ ← appendPacket c false maxPacketSize

/-- The events in order, stopping at the first error. -/
def run : List Event → Call (Packer E) Unit
  | [] => pure ()
  | e :: rest => do
      step c e
      run rest

/-! ## What one packet does to the queue -/

theorem queueRepairFrames_apply (fs : List RepairFrame) (p : Packer E)
    (bounded : p.repairQueue.sendQueue.length ≤ maxRepairSendQueueLen) :
    queueRepairFrames fs p =
      if p.repairQueue.sendQueue.length + fs.length ≤ maxRepairSendQueueLen then
        .ok () { p with repairQueue := ⟨p.repairQueue.sendQueue ++ fs⟩ }
      else .panic "repair queue full" := by
  induction fs generalizing p with
  | nil => simp [queueRepairFrames, bounded]
  | cons f rest ih =>
      unfold queueRepairFrames
      by_cases room : p.repairQueue.sendQueue.length < maxRepairSendQueueLen
      · -- one frame goes in; the rest follow on the longer queue
        have added : onRepairQueue (RepairQueue.add f) p =
            .ok () { p with repairQueue := ⟨p.repairQueue.sendQueue ++ [f]⟩ } := by
          simp [onRepairQueue, RepairQueue.add, room]
        rw [Call.bind_of_ok added, ih _ (by simp; omega)]
        by_cases fits : p.repairQueue.sendQueue.length + (rest.length + 1) ≤ maxRepairSendQueueLen
        · rw [if_pos (by simp; omega), if_pos (by simpa using fits)]
          simp
        · rw [if_neg (by simp; omega), if_neg (by simpa using fits)]
      · have full : onRepairQueue (E := E) (RepairQueue.add f) p = .panic "repair queue full" := by
          simp [onRepairQueue, RepairQueue.add, room]
        rw [Call.bind_of_panic full, if_neg (by simp; omega)]

theorem addRepairFrame_of_no_room (maxFrameSize : Int) (pl : Payload) (p : Packer E)
    (f : RepairFrame) (rest : List RepairFrame) (queued : p.repairQueue.sendQueue = f :: rest)
    (noRoom : maxFrameSize - pl.length < f.length) :
    addRepairFrame maxFrameSize true pl p = .ok (pl, false) p := by
  have tooBig : ¬ (f.length : Int) ≤ maxFrameSize - pl.length := by omega
  simp [addRepairFrame, RepairQueue.peek, queued, tooBig]

/-! ## A run that fills the queue

The peer's packets start arriving after the first two packets, so every
packet from the third on carries an ACK.  The application writes 2400 bytes on
a FEC-protected stream, then 10 bytes before each further packet.  The two
full packets complete XOR block 0, whose REPAIR frame is about as long as the
payload budget; with the ACK beside it, it never fits again, and the REPAIR
frame of every later block queues up behind it. -/

/-- The ACK the peer's packets 0 to 100, with two gaps, get: 10 bytes. -/
def peerAck : AckFrame where
  ackRanges := [⟨90, 100⟩, ⟨50, 80⟩, ⟨0, 40⟩]
  nonempty := by simp
  delayTime := 0
  ect0 := 0
  ect1 := 0
  ecnce := 0

/-- Components whose ACK source has an ACK from the third packet on; their
state is the number of packets sent.  Control frames keep the order they were
queued in, as with `idleComponents`. -/
def busyStreamComponents : Components Nat where
  getAckFrame _ packetsSent := (if packetsSent < 2 then none else some peerAck, packetsSent)
  peekPacketNumber packetsSent := (packetsSent, 2)
  popPacketNumber packetsSent := (packetsSent, packetsSent + 1)
  getDestConnID _ := [1, 2, 3, 4]
  get1RTTSealer _ := .ok gcmSealer
  shuffle := idleComponents.shuffle
  shuffle_perm := idleComponents.shuffle_perm

/-- A client packer with the XOR sender, empty queues and a FEC-protected
send stream 0, with flow control windows of a megabyte. -/
def busyStreamPacker : Packer Nat where
  env := 0
  perspective := .client
  framer := { idleSending (1 <<< 20) with
    streams := AList.insert 0 (SendStream.newSendStreamWithFEC 0 (Flowcontrol.SendFlowController.init (1 <<< 20)) true) ∅ }
  retransmissionQueue := ⟨[]⟩
  repairQueue := ⟨[]⟩
  datagramQueue := ⟨[]⟩
  fecSender := some (Fec.xorScheme, ⟨0, 2, 1, ∅⟩)
  numNonAckElicitingAcks := 0

/-- The application's 2400 bytes on stream 0 and two 1252-byte packets, then
10 bytes and a packet, `n` times. -/
def busyStreamRun (n : Nat) : List Event :=
  .write 0 (List.replicate 2400 0) :: .appendPacket 1252 :: .appendPacket 1252 ::
    (List.replicate n [.write 0 (List.replicate 10 0), .appendPacket 1252]).flatten

/-- After 65 packets the queue holds 32 REPAIR frames, the oldest one longer
than the room an ACK leaves, and the 66th packet completes block 32:
`repairQueue.Add` panics. -/
theorem sendPackets_repairQueue_full :
    (Result.state? (run busyStreamComponents (busyStreamRun 63) busyStreamPacker)).map
        (fun p => (p.repairQueue.sendQueue.length,
          p.repairQueue.sendQueue.head?.map fun f => decide ((1252 - 7 - 16 - peerAck.length : Int) < f.length))) =
      some (32, some true) ∧
    Result.panic? (run busyStreamComponents (busyStreamRun 64) busyStreamPacker) = some "repair queue full" := by
  constructor
  · decide +kernel
  · decide +kernel

/-! ## The framer over a run

The framer's invariant, `Sending.Ready` (its queue and its set of active
streams agree, every send stream it reaches can be popped, and the
connection's flow controller is within its window), holds along every run of
the packer whose packets are at most `MaxPacketBufferSize` bytes, through the
errors of its steps: a write keeps it or panics on a missing stream, and a
packet keeps it in `composeNextPacket` and leaves the framer alone after. -/

/-- The events the connection sends the packer: any write, and packets of at
most `MaxPacketBufferSize` bytes, the most the send loop asks for (the MTU
discoverer starts at `min(maxPacketSize, protocol.MaxPacketBufferSize)`). -/
def Event.Enabled : Event → Prop
  | .write _ _ => True
  | .appendPacket maxPacketSize => maxPacketSize ≤ maxPacketBufferSize

instance : DecidablePred Event.Enabled := fun e => by
  cases e <;> unfold Event.Enabled <;> infer_instance

theorem step_ready {e : Event} (enabled : e.Enabled) :
    Call.Invariant (fun p : Packer E => p.framer.Ready) (step c e) := by
  cases e with
  | write id data =>
    refine .bind (Call.invariant_of_okOrPanic fun p ready =>
      Call.okOrPanic_focus (ready.write_okOrPanic id data)) fun _ => ?_
    exact ((Call.keeps_pure ()).preserves _).invariant _
  | appendPacket maxPacketSize =>
    exact .bind (appendPacket_ready c enabled false) fun _ => ((Call.keeps_pure ()).preserves _).invariant _

/-- From a ready framer, every state a run of the packer reaches with packets
of at most `MaxPacketBufferSize` bytes has a ready framer. -/
theorem reaches_framer_ready {p p' : Packer E} (ready : p.framer.Ready)
    (run : Go.Reaches (step c) (fun _ e => e.Enabled) p p') : p'.framer.Ready :=
  run.invariant (fun ready enabled ended => step_ready c enabled _ _ ready ended) ready

/-- A run of enabled events ends, at its first error or after its last event,
in a state the packer reaches. -/
theorem run_reaches : ∀ {events : List Event} {p p' : Packer E}, (∀ e ∈ events, e.Enabled) →
    (run c events p).state? = some p' → Go.Reaches (step c) (fun _ e => e.Enabled) p p'
  | [], p, p', _, ended => by
    cases ended
    exact .refl p
  | e :: rest, p, p', enabled, ended => by
    unfold run at ended
    rw [Call.bind_apply] at ended
    cases stepped : step c e p with
    | ok u p₁ =>
      rw [stepped] at ended
      exact .step e (enabled e List.mem_cons_self) (by rw [stepped]; rfl)
        (run_reaches (fun e' member => enabled e' (List.mem_cons_of_mem e member)) ended)
    | error m p₁ =>
      rw [stepped] at ended
      cases ended
      exact .step e (enabled e List.mem_cons_self) (by rw [stepped]; rfl) (.refl _)
    | panic m =>
      rw [stepped] at ended
      cases ended

/-- A client packer with the send stream 0 of `oneStream` and no FEC sender. -/
def oneStreamPacker : Packer Unit where
  env := ()
  perspective := .client
  framer := Sending.oneStream
  retransmissionQueue := ⟨[]⟩
  repairQueue := ⟨[]⟩
  datagramQueue := ⟨[]⟩
  fecSender := none
  numNonAckElicitingAcks := 0

/-- Three bytes written on stream 0, then a packet. -/
def writeThenPack : List Event := [.write 0 [1, 2, 3], .appendPacket 1252]

theorem reaches_framer_ready_writeThenPack :
    oneStreamPacker.framer.Ready ∧
      Go.Reaches (step idleComponents) (fun _ e => e.Enabled) oneStreamPacker
        ((run idleComponents writeThenPack oneStreamPacker).state?.getD oneStreamPacker) ∧
      ((run idleComponents writeThenPack oneStreamPacker).state?.getD oneStreamPacker).framer.Ready := by
  have returns : (run idleComponents writeThenPack oneStreamPacker).state?.isSome = true := by decide +kernel
  obtain ⟨p', ended⟩ := Option.isSome_iff_exists.mp returns
  have reached := run_reaches idleComponents (by decide) ended
  rw [ended, Option.getD_some]
  exact ⟨Sending.ready_oneStream, reached, reaches_framer_ready idleComponents Sending.ready_oneStream reached⟩

end Packer

end QuicFec
