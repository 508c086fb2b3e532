import QuicFec.Stream.IncomingStreamsMap
import QuicFec.Protocol.Stream

/-! # Routing stream IDs to the four stream maps

`streams_map.go`, where frames from the peer name a stream: the ID's type and
initiator pick one of the four maps (the streams we open, and those the peer
opens, of each type), and that map is asked for the stream with the ID's
number.  A peer may name a stream we opened but not one we have not opened
yet, may open its own streams up to our limit, may not send on a
unidirectional stream we opened and may not ask us to send on one it opened.

The interface types `streamI`, `sendStreamI` and `receiveStreamI` are one type
`S` of streams here.  `convertStreamError` fills the IDs of the streams a
map's `streamError` names into its message.  The outgoing maps are kept with
the two fields `GetStream` reads. -/
set_option autoImplicit false

namespace QuicFec

open Go QuicFec.Protocol

/-- `outgoingStreamsMap`, with the fields `GetStream` reads. -/
structure OutgoingStreamsMap (T : Type) where
  streams : AList fun _ : Int => T
  nextStream : Int

namespace OutgoingStreamsMap

variable {T : Type}

/-- `outgoingStreamsMap.GetStream`: the stream `num`, `none` for Go's nil once
it is closed, or the `streamError` for a stream not opened yet. -/
def getStream (num : Int) :
    Call (OutgoingStreamsMap T) (Except StreamsMap.StreamError (Option T)) := fun m =>
  if num ≥ m.nextStream then .ok (.error ⟨"peer attempted to open stream %d", [num]⟩) m
  else .ok (.ok (m.streams.lookup num)) m

end OutgoingStreamsMap

structure StreamsMap (S : Type) where
  perspective : Perspective
  outgoingBidiStreams : OutgoingStreamsMap S
  outgoingUniStreams : OutgoingStreamsMap S
  incomingBidiStreams : IncomingStreamsMap S
  incomingUniStreams : IncomingStreamsMap S

/-- `convertStreamError`: the message with the IDs of the streams it names. -/
def convertStreamError (err : StreamsMap.StreamError) (stype : StreamType) (pers : Perspective) : String :=
  sprintf err.error.toList (err.nums.map fun num => StreamNum.streamID num stype pers)

/-- A map's `(T, error)`, returned with its `streamError` converted. -/
def converted {σ α : Type} (stype : StreamType) (pers : Perspective)
    (x : Call σ (Except StreamsMap.StreamError α)) : Call σ α := do
  match ← x with
  | .ok a => pure a
  | .error err => Call.fail (convertStreamError err stype pers)

namespace StreamsMap

variable {S : Type} (newStream : StreamType → StreamID → S)

/-- `newStreamsMap`, with the maps `initMaps` makes. -/
def newStreamsMap (maxIncomingBidiStreams maxIncomingUniStreams : Nat) (perspective : Perspective) :
    StreamsMap S where
  perspective := perspective
  outgoingBidiStreams := ⟨∅, 1⟩
  outgoingUniStreams := ⟨∅, 1⟩
  incomingBidiStreams := IncomingStreamsMap.newIncomingStreamsMap .bidi maxIncomingBidiStreams
  incomingUniStreams := IncomingStreamsMap.newIncomingStreamsMap .uni maxIncomingUniStreams

/-- The `newStream` closure `initMaps` makes the incoming map of a type with:
`newStream` for bidirectional, `newReceiveStream` for unidirectional streams,
for the ID of the number. -/
def incomingNewStream (pers : Perspective) (stype : StreamType) (num : StreamNum) : S :=
  newStream stype (num.streamID stype pers.opposite)

def getOrOpenReceiveStream (id : StreamID) : Call (StreamsMap S) (Option S) := do
  let m ← Call.get
  let num := id.streamNum
  match id.type with
  | .uni =>
      if id.initiatedBy = m.perspective then
        -- an outgoing unidirectional stream is a send stream, not a receive stream
        Call.fail s!"peer attempted to open receive stream {id}"
      else
        converted .uni m.perspective <|
          Call.focus incomingUniStreams (fun x m => { m with incomingUniStreams := x })
            (IncomingStreamsMap.getOrOpenStream (incomingNewStream newStream m.perspective .uni) num)
  | .bidi =>
      if id.initiatedBy = m.perspective then
        converted .bidi id.initiatedBy <|
          Call.focus outgoingBidiStreams (fun x m => { m with outgoingBidiStreams := x })
            (OutgoingStreamsMap.getStream num)
      else
        converted .bidi id.initiatedBy <|
          Call.focus incomingBidiStreams (fun x m => { m with incomingBidiStreams := x })
            (IncomingStreamsMap.getOrOpenStream (incomingNewStream newStream m.perspective .bidi) num)

def getOrOpenSendStream (id : StreamID) : Call (StreamsMap S) (Option S) := do
  let m ← Call.get
  let num := id.streamNum
  match id.type with
  | .uni =>
      if id.initiatedBy = m.perspective then
        converted .uni m.perspective <|
          Call.focus outgoingUniStreams (fun x m => { m with outgoingUniStreams := x })
            (OutgoingStreamsMap.getStream num)
      else
        -- an incoming unidirectional stream is a receive stream, not a send stream
        Call.fail s!"peer attempted to open send stream {id}"
  | .bidi =>
      if id.initiatedBy = m.perspective then
        converted .bidi id.initiatedBy <|
          Call.focus outgoingBidiStreams (fun x m => { m with outgoingBidiStreams := x })
            (OutgoingStreamsMap.getStream num)
      else
        converted .bidi id.initiatedBy <|
          Call.focus incomingBidiStreams (fun x m => { m with incomingBidiStreams := x })
            (IncomingStreamsMap.getOrOpenStream (incomingNewStream newStream m.perspective .bidi) num)

/-! ## What the routing is for -/

/-- The map of the streams we open of a type. -/
def outgoing (m : StreamsMap S) : StreamType → OutgoingStreamsMap S
  | .uni => m.outgoingUniStreams
  | .bidi => m.outgoingBidiStreams

/-- The map of the streams the peer opens of a type. -/
def incoming (m : StreamsMap S) : StreamType → IncomingStreamsMap S
  | .uni => m.incomingUniStreams
  | .bidi => m.incomingBidiStreams

/-- Replace the map of the peer's streams of a type. -/
def setIncoming (m : StreamsMap S) : StreamType → IncomingStreamsMap S → StreamsMap S
  | .uni, x => { m with incomingUniStreams := x }
  | .bidi, x => { m with incomingBidiStreams := x }

/-- The IDs a peer may not name when it sends on a stream: our unidirectional
streams, our streams not opened yet, its own streams above our limit. -/
def ReceiveRefused (m : StreamsMap S) (id : StreamID) : Prop :=
  (id.type = .uni ∧ id.initiatedBy = m.perspective) ∨
    (id.initiatedBy = m.perspective ∧ (m.outgoing id.type).nextStream ≤ id.streamNum) ∨
    (id.initiatedBy ≠ m.perspective ∧ (m.incoming id.type).maxStream < id.streamNum)

/-- The IDs a peer may not name when it asks us to send: its unidirectional
streams, and the same streams above the limits. -/
def SendRefused (m : StreamsMap S) (id : StreamID) : Prop :=
  (id.type = .uni ∧ id.initiatedBy ≠ m.perspective) ∨
    (id.initiatedBy = m.perspective ∧ (m.outgoing id.type).nextStream ≤ id.streamNum) ∨
    (id.initiatedBy ≠ m.perspective ∧ (m.incoming id.type).maxStream < id.streamNum)

/-- What a lookup of `id` does, with `refused` the IDs it refuses: it never
panics; a refused ID is an error that changes nothing; any other returns the
entry of the map of `id`'s type and initiator for its number, our map as it
is, or the peer's map once the streams up to the number are open. -/
def Routed (refused : Prop) (m : StreamsMap S) (id : StreamID) :
    Result (StreamsMap S) (Option S) → Prop
  | .panic _ => False
  | .error _ m' => refused ∧ m' = m
  | .ok str m' => ¬ refused ∧
      if id.initiatedBy = m.perspective then
        m' = m ∧ str = (m.outgoing id.type).streams.lookup id.streamNum
      else
        ∃ incoming', m' = m.setIncoming id.type incoming' ∧
          str = IncomingStreamsMap.visible (incoming'.streams.lookup id.streamNum)

/-! ## The routing meets it -/

section Routing

variable {newStream}

theorem converted_apply {σ α : Type} (stype : StreamType) (pers : Perspective)
    (x : Call σ (Except StreamsMap.StreamError α)) (s : σ) :
    converted stype pers x s =
      match x s with
      | .ok (.ok a) s' => .ok a s'
      | .ok (.error err) s' => .error (convertStreamError err stype pers) s'
      | .error e s' => .error e s'
      | .panic m => .panic m := by
  simp only [converted, Call.bind_apply]
  rcases x s with ⟨_ | _, _⟩ | _ | _ <;> rfl

theorem getStream_cases (o : OutgoingStreamsMap S) (num : Int) :
    (o.nextStream ≤ num ∧
      OutgoingStreamsMap.getStream num o = .ok (.error ⟨"peer attempted to open stream %d", [num]⟩) o) ∨
      (num < o.nextStream ∧ OutgoingStreamsMap.getStream num o = .ok (.ok (o.streams.lookup num)) o) := by
  by_cases notOpened : num ≥ o.nextStream
  · exact .inl ⟨notOpened, by simp [OutgoingStreamsMap.getStream, notOpened]⟩
  · exact .inr ⟨by omega, by simp [OutgoingStreamsMap.getStream, notOpened]⟩

theorem routed_outgoing (m : StreamsMap S) (id : StreamID) (refused : Prop)
    (ours : id.initiatedBy = m.perspective)
    (exactly : refused ↔ (m.outgoing id.type).nextStream ≤ id.streamNum)
    {view : StreamsMap S → OutgoingStreamsMap S} {update : OutgoingStreamsMap S → StreamsMap S → StreamsMap S}
    (viewed : view m = m.outgoing id.type) (kept : update (m.outgoing id.type) m = m)
    (stype : StreamType) (pers : Perspective) :
    Routed refused m id
      (converted stype pers (Call.focus view update (OutgoingStreamsMap.getStream id.streamNum)) m) := by
  rw [converted_apply, Call.focus_apply, viewed]
  rcases getStream_cases (m.outgoing id.type) id.streamNum with ⟨notOpened, run⟩ | ⟨opened, run⟩
  · rw [run]
    exact ⟨exactly.mpr notOpened, kept⟩
  · rw [run]
    refine ⟨fun refusedNow => absurd (exactly.mp refusedNow) (by omega), ?_⟩
    rw [if_pos ours]
    exact ⟨kept, rfl⟩

theorem routed_incoming (m : StreamsMap S) (id : StreamID) (refused : Prop)
    (theirs : id.initiatedBy ≠ m.perspective)
    (exactly : refused ↔ (m.incoming id.type).maxStream < id.streamNum)
    {view : StreamsMap S → IncomingStreamsMap S} {update : IncomingStreamsMap S → StreamsMap S → StreamsMap S}
    (viewed : view m = m.incoming id.type) (updated : ∀ x, update x m = m.setIncoming id.type x)
    (kept : m.setIncoming id.type (m.incoming id.type) = m) (make : StreamNum → S)
    (stype : StreamType) (pers : Perspective) :
    Routed refused m id
      (converted stype pers (Call.focus view update (IncomingStreamsMap.getOrOpenStream make id.streamNum)) m) := by
  rw [converted_apply, Call.focus_apply, viewed]
  rcases IncomingStreamsMap.getOrOpenStream_cases make (m.incoming id.type) id.streamNum with
    ⟨tooHigh, run⟩ | ⟨allowed, incoming', run⟩
  · rw [run]
    exact ⟨exactly.mpr tooHigh, (updated _).trans kept⟩
  · rw [run]
    refine ⟨fun refusedNow => absurd (exactly.mp refusedNow) (by omega), ?_⟩
    rw [if_neg theirs]
    exact ⟨incoming', updated _, rfl⟩

theorem getOrOpenReceiveStream_routed (m : StreamsMap S) (id : StreamID) :
    Routed (ReceiveRefused m id) m id (getOrOpenReceiveStream newStream id m) := by
  simp only [getOrOpenReceiveStream, Call.bind_apply, Call.get_apply]
  -- one case per map the ID can name
  cases type : id.type with
  | uni =>
      by_cases ours : id.initiatedBy = m.perspective
      · simp only [ours, if_true, Call.fail_apply]
        exact ⟨.inl ⟨type, ours⟩, rfl⟩
      · simp only [ours, if_false]
        refine routed_incoming m id _ ours ?_ (by rw [type]; rfl) (by rw [type]; exact fun _ => rfl)
          (by rw [type]; rfl) _ _ _
        simp [ReceiveRefused, type, ours]
  | bidi =>
      by_cases ours : id.initiatedBy = m.perspective
      · simp only [ours, if_true]
        refine routed_outgoing m id _ ours ?_ (by rw [type]; rfl) (by rw [type]; rfl) _ _
        simp [ReceiveRefused, type, ours]
      · simp only [ours, if_false]
        refine routed_incoming m id _ ours ?_ (by rw [type]; rfl) (by rw [type]; exact fun _ => rfl)
          (by rw [type]; rfl) _ _ _
        simp [ReceiveRefused, type, ours]

theorem getOrOpenSendStream_routed (m : StreamsMap S) (id : StreamID) :
    Routed (SendRefused m id) m id (getOrOpenSendStream newStream id m) := by
  simp only [getOrOpenSendStream, Call.bind_apply, Call.get_apply]
  cases type : id.type with
  | uni =>
      by_cases ours : id.initiatedBy = m.perspective
      · simp only [ours, if_true]
        refine routed_outgoing m id _ ours ?_ (by rw [type]; rfl) (by rw [type]; rfl) _ _
        simp [SendRefused, type, ours]
      · simp only [ours, if_false, Call.fail_apply]
        exact ⟨.inl ⟨type, ours⟩, rfl⟩
  | bidi =>
      by_cases ours : id.initiatedBy = m.perspective
      · simp only [ours, if_true]
        refine routed_outgoing m id _ ours ?_ (by rw [type]; rfl) (by rw [type]; rfl) _ _
        simp [SendRefused, type, ours]
      · simp only [ours, if_false]
        refine routed_incoming m id _ ours ?_ (by rw [type]; rfl) (by rw [type]; exact fun _ => rfl)
          (by rw [type]; rfl) _ _ _
        simp [SendRefused, type, ours]

end Routing

/-- Stream ID routing: up to stream number `2 ^ 61` an ID gives back the type,
initiator and number it was made from, and different streams get different
IDs; `getOrOpenReceiveStream` and `getOrOpenSendStream` refuse exactly the IDs
the peer may not name there, and lead every other ID to the entry of the map
of its type and initiator. -/
theorem streamID_routing (newStream : StreamType → StreamID → S) :
    (∀ (stype : StreamType) (pers : Perspective) (s : StreamNum), 1 ≤ s → s ≤ 2 ^ 61 →
      (s.streamID stype pers).type = stype ∧ (s.streamID stype pers).initiatedBy = pers ∧
        (s.streamID stype pers).streamNum = s) ∧
    (∀ (stype stype' : StreamType) (pers pers' : Perspective) (s s' : StreamNum),
      1 ≤ s → s ≤ 2 ^ 61 → 1 ≤ s' → s' ≤ 2 ^ 61 →
        s.streamID stype pers = s'.streamID stype' pers' → stype = stype' ∧ pers = pers' ∧ s = s') ∧
    ∀ (m : StreamsMap S) (id : StreamID),
      Routed (ReceiveRefused m id) m id (getOrOpenReceiveStream newStream id m) ∧
        Routed (SendRefused m id) m id (getOrOpenSendStream newStream id m) := by
  refine ⟨streamID_roundTrip, ?_, ?_⟩
  · intro _ _ _ _ _ _ positive small positive' small' same
    exact streamID_injective positive small positive' small' same
  · intro m id
    exact ⟨getOrOpenReceiveStream_routed m id, getOrOpenSendStream_routed m id⟩

/-! ## The IDs an error names -/

section Refusal

variable {newStream}

theorem converted_tooHigh (m : StreamsMap S) (id : StreamID) (stype : StreamType) (pers : Perspective)
    (tooHigh : (m.incoming id.type).maxStream < id.streamNum)
    {view : StreamsMap S → IncomingStreamsMap S} {update : IncomingStreamsMap S → StreamsMap S → StreamsMap S}
    (viewed : view m = m.incoming id.type) (kept : update (m.incoming id.type) m = m) (make : StreamNum → S) :
    converted stype pers (Call.focus view update (IncomingStreamsMap.getOrOpenStream make id.streamNum)) m =
      .error (sprintf "peer tried to open stream %d (current limit: %d)".toList
        [StreamNum.streamID id.streamNum stype pers,
          StreamNum.streamID (m.incoming id.type).maxStream stype pers]) m := by
  rw [converted_apply, Call.focus_apply, viewed]
  rcases IncomingStreamsMap.getOrOpenStream_cases make (m.incoming id.type) id.streamNum with
    ⟨-, run⟩ | ⟨allowed, -⟩
  · rw [run]
    dsimp only
    rw [kept]
    rfl
  · omega

example : (getOrOpenReceiveStream (fun _ _ => ()) 3 (newStreamsMap 100 0 .client : StreamsMap Unit)).error? =
    some "peer tried to open stream 2 (current limit: -1)" := by
  decide

end Refusal

/-- The first bidirectional stream a client opens has ID 0, and gives back its
type, initiator and number. -/
theorem streamID_routing_firstClientBidi :
    (StreamNum.streamID 1 .bidi .client).type = .bidi ∧
      (StreamNum.streamID 1 .bidi .client).initiatedBy = .client ∧
      (StreamNum.streamID 1 .bidi .client).streamNum = 1 :=
  (streamID_routing (S := Unit) (fun _ _ => ())).1 .bidi .client 1 (by decide) (by decide)

end StreamsMap

end QuicFec
