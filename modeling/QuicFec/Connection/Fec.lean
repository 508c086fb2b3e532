import QuicFec.Fec.Manager

/-! # The connection's FEC configuration and receive path

The parts of `connection.go` that create and use the FEC sender and receiver:
`newConnection` stores whatever `fec.NewReceiver(config.DecoderFECScheme)`
returns, `applyTransportParameters` installs `fec.NewSender(peer scheme)` in
the packer once both sides enabled FEC, and `handleSourceSymbolFrame` /
`handleRepairFrame` call through the stored receiver.  A nil `fec.Receiver`
or `fec.Sender` is `none`; calling a method through it is a nil-pointer
dereference.

Only the FEC fields of `Config` and `TransportParameters` are modeled. -/
set_option autoImplicit false

namespace QuicFec

open Go QuicFec.Protocol QuicFec.Wire QuicFec.Fec

/-- The FEC fields of the peer's `wire.TransportParameters`, as `Unmarshal`
accepts them: `EnableFEC` is 0 or 1, `DecoderFECScheme` any byte. -/
structure Wire.TransportParameters where
  enableFEC : UInt8
  decoderFECScheme : DecoderFECScheme
  maxDatagramFrameSize : Nat

/-- The FEC fields of `quic.Config`. -/
structure Config where
  enableFEC : Bool
  decoderFECScheme : DecoderFECScheme
  enableDatagrams : Bool

/-- The FEC state of a `quic.connection`: its configuration, the peer's
parameters once received, the stored receiver, and the packer's sender. -/
structure Connection where
  config : Config
  peerParams : Wire.TransportParameters
  fecReceiver : Option FECEndpoint
  fecSender : Option FECEndpoint

namespace Connection

/-- The nil-pointer dereference of a method call through a nil interface. -/
def nilDereference : String := "runtime error: invalid memory address or nil pointer dereference"

/-- The receiver `newConnection` stores: `fec.NewReceiver` of the local scheme,
and a panic on its error. -/
def newFECReceiver (reedSolomon : BlockFECScheme) (config : Config) :
    Call Unit (Option FECEndpoint) := fun u =>
  match Manager.newReceiver reedSolomon config.decoderFECScheme with
  | .ok receiver => .ok receiver u
  | .error e => .panic e

def fecEnabled (c : Connection) : Bool :=
  c.peerParams.enableFEC == 1 && c.config.enableFEC

def supportsDatagrams (c : Connection) : Bool :=
  decide (0 < c.peerParams.maxDatagramFrameSize)

/-- The FEC step of `connection.applyTransportParameters`: build a sender for
the scheme the peer decodes, panicking on `NewSender`'s error, and hand it to
the packer (`SetFECSender`). -/
def applyTransportParameters (reedSolomon : BlockFECScheme) : Call Connection Unit := fun c =>
  if fecEnabled c then
    match Manager.newSender reedSolomon c.peerParams.decoderFECScheme with
    | .ok sender => .ok () { c with fecSender := sender }
    | .error e => .panic e
  else .ok () c

/-- Call a receiver method through the stored `fec.Receiver`. -/
def throughReceiver {α : Type} (x : BlockFECScheme → Call Manager α) : Call Connection α := fun c =>
  match c.fecReceiver with
  | none => .panic nilDereference
  | some (scheme, m) =>
      match x scheme m with
      | .ok a m' => .ok a { c with fecReceiver := some (scheme, m') }
      | .error e m' => .error e { c with fecReceiver := some (scheme, m') }
      | .panic msg => .panic msg

def handleSourceSymbolFrame (f : SourceSymbolFrame) : Call Connection (Slice UInt8) :=
  throughReceiver fun _ => Manager.handleSourceSymbolFrame f

def handleRepairFrame (f : RepairFrame) : Call Connection (Slice UInt8) :=
  throughReceiver fun scheme => Manager.handleRepairFrame scheme f

theorem handleSourceSymbolFrame_of_nil_receiver (c : Connection) (f : SourceSymbolFrame)
    (nilReceiver : c.fecReceiver = none) :
    handleSourceSymbolFrame f c = .panic nilDereference := by
  simp [handleSourceSymbolFrame, throughReceiver, nilReceiver]

theorem newFECReceiver_fecDisabled (reedSolomon : BlockFECScheme) (config : Config)
    (disabled : config.decoderFECScheme = fecDisabled) :
    newFECReceiver reedSolomon config () = .ok none () := by
  simp [newFECReceiver, Manager.newReceiver, Manager.managerFor, disabled]

/-- Two peer inputs that make the receive path panic.  A connection configured
with `DecoderFECScheme = FECDisabled` stores a nil receiver, and the first
SOURCE_SYMBOL frame the peer sends is a nil dereference.  On the XOR receiver,
SOURCE_SYMBOL `SSID 0` with payload `[1]` followed by a REPAIR frame for block 0
with payload `[0xff, 0xff]` triggers recovery, whose decoded length `0xfefe`
exceeds the 1452-byte recovery buffer: the slice expression panics. -/
theorem fecReceivePath_peer_input_panics (reedSolomon : BlockFECScheme) :
    let disabled : Config :=
      { enableFEC := true, decoderFECScheme := fecDisabled, enableDatagrams := true }
    let s0 : SourceSymbolFrame := ⟨0, Slice.ofList [1]⟩
    let crafted : RepairFrame := ⟨⟨0, 0⟩, Slice.ofList [0xff, 0xff]⟩
    newFECReceiver reedSolomon disabled () = .ok none () ∧
    handleSourceSymbolFrame s0
      { config := disabled, fecReceiver := none, fecSender := none
        peerParams := { enableFEC := 1, decoderFECScheme := xorFECScheme, maxDatagramFrameSize := 0 } } =
      .panic nilDereference ∧
    Manager.newReceiver reedSolomon xorFECScheme = .ok (some (xorScheme, ⟨0, 2, 1, ∅⟩)) ∧
    (Manager.handleSourceSymbolFrame s0 >>= fun _ => Manager.handleRepairFrame xorScheme crafted)
      ⟨0, 2, 1, ∅⟩ = .panic "runtime error: slice bounds out of range" := by
  refine ⟨newFECReceiver_fecDisabled reedSolomon _ rfl,
    handleSourceSymbolFrame_of_nil_receiver _ _ rfl, rfl, ?_⟩
  decide +kernel

/-- Once both endpoints enabled FEC, a peer that announces a decoder scheme
byte other than 0, 1 and 2 makes `applyTransportParameters` panic on the error
of `fec.NewSender`. -/
theorem applyTransportParameters_panics_on_unknown_scheme (reedSolomon : BlockFECScheme)
    (c : Connection) (localFEC : c.config.enableFEC = true) (peerFEC : c.peerParams.enableFEC = 1)
    (unknown : c.peerParams.decoderFECScheme ≠ fecDisabled ∧
      c.peerParams.decoderFECScheme ≠ xorFECScheme ∧
      c.peerParams.decoderFECScheme ≠ reedSolomonFECScheme) :
    ∃ message, applyTransportParameters reedSolomon c = .panic message := by
  obtain ⟨notDisabled, notXor, notReedSolomon⟩ := unknown
  have enabled : fecEnabled c = true := by simp [fecEnabled, localFEC, peerFEC]
  refine ⟨s!"unknown FEC scheme: {c.peerParams.decoderFECScheme}", ?_⟩
  simp [applyTransportParameters, enabled, Manager.newSender, Manager.managerFor,
    notDisabled, notXor, notReedSolomon]

/-- The peer of a FEC-enabled client announces scheme byte 3 (with the XOR
scheme standing in for the Reed-Solomon one, which this call never reaches). -/
theorem applyTransportParameters_panics_on_scheme_three :
    let c : Connection :=
      { config := { enableFEC := true, decoderFECScheme := xorFECScheme, enableDatagrams := false }
        peerParams := { enableFEC := 1, decoderFECScheme := 3, maxDatagramFrameSize := 0 }
        fecReceiver := none, fecSender := none }
    (c.config.enableFEC = true ∧ c.peerParams.enableFEC = 1 ∧
      (c.peerParams.decoderFECScheme ≠ fecDisabled ∧
        c.peerParams.decoderFECScheme ≠ xorFECScheme ∧
        c.peerParams.decoderFECScheme ≠ reedSolomonFECScheme)) ∧
    ∃ message, applyTransportParameters Fec.xorScheme c = .panic message :=
  ⟨⟨rfl, rfl, by decide⟩,
    applyTransportParameters_panics_on_unknown_scheme Fec.xorScheme _ rfl rfl (by decide)⟩

end Connection

end QuicFec
