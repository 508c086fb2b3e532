import QuicFec.Quicvarint

/-! # HTTP/3 frames

`http3/frames.go`: the frame layer of an HTTP/3 stream.  `parseNextFrame`
reads a frame type and a length; it returns a DATA or HEADERS frame with its
payload left unread for the caller, parses a SETTINGS frame whole, and skips
every frame of another type.  `Append` writes the header of a DATA or HEADERS
frame and a whole SETTINGS frame.

Frames written back to back, with frames of any other type and payload
between them, are read back in order by calling `parseNextFrame` again and
again, and the reading stops only at the end of the bytes
(`parseNextFrame_serialized`).

Only the nil unknown-frame handler is modelled.  A Go map is an `AList`, the
order of its entries the order a `range` over it takes, and maps are equal
when they map every key alike; a nil map is the empty one. -/
set_option autoImplicit false

namespace QuicFec.Http3

open Go

/-- `settingExtendedConnect`, RFC 9220. -/
def settingExtendedConnect : Nat := 0x8

/-- `settingDatagram`, RFC 9297. -/
def settingDatagram : Nat := 0x33

/-- `settingsFrame`; `Other` holds the settings it does not recognize. -/
structure SettingsFrame where
  datagram : Bool
  extendedConnect : Bool
  other : AList (fun _ : Nat => Nat)

/-- Settings frames that are the same to a reader: the same flags, and maps
that map every id alike. -/
def SettingsFrame.Same (f g : SettingsFrame) : Prop :=
  f.datagram = g.datagram ∧ f.extendedConnect = g.extendedConnect ∧
    ∀ id, f.other.lookup id = g.other.lookup id

/-- The frames `parseNextFrame` returns: `dataFrame`, `headersFrame` and `settingsFrame`. -/
inductive Frame where
  | data (length : Nat)
  | headers (length : Nat)
  | settings (f : SettingsFrame)

/-! ## Writing frames -/

/-- Two varints: how a frame's type and length, and a setting's id and value, are written. -/
def appendPair {σ : Type} (x y : Nat) (b : List UInt8) : Call σ (List UInt8) := do
  let b ← Quicvarint.append b x
  Quicvarint.append b y

/-- `dataFrame.Append`. -/
def dataFrameAppend {σ : Type} (length : Nat) (b : List UInt8) : Call σ (List UInt8) :=
  appendPair 0x0 length b

/-- `headersFrame.Append`. -/
def headersFrameAppend {σ : Type} (length : Nat) (b : List UInt8) : Call σ (List UInt8) :=
  appendPair 0x1 length b

namespace SettingsFrame

/-- The length `Append` computes for the settings it then writes. -/
def payloadLength (f : SettingsFrame) : Nat :=
  (f.other.entries.map fun s => Quicvarint.size s.1 + Quicvarint.size s.2).sum +
    (if f.datagram then Quicvarint.size settingDatagram + Quicvarint.size 1 else 0) +
    (if f.extendedConnect then Quicvarint.size settingExtendedConnect + Quicvarint.size 1 else 0)

def append {σ : Type} (f : SettingsFrame) (b : List UInt8) : Call σ (List UInt8) := do
  let b ← Quicvarint.append b 0x4
  let b ← Quicvarint.append b f.payloadLength
  let b ← Call.appendWhen (f.datagram = true) (appendPair settingDatagram 1) b
  let b ← Call.appendWhen (f.extendedConnect = true) (appendPair settingExtendedConnect 1) b
  Call.appendEach (fun s => appendPair s.1 s.2) f.other.entries b

end SettingsFrame

/-! ## Reading frames -/

-- the match hypotheses are read only by the termination proof
set_option linter.unusedVariables false in
/-- The loop of `parseSettingsFrame` over the frame's bytes, with the frame so
far and whether each setting it knows was read. -/
def readSettings (frame : SettingsFrame) (readDatagram readExtendedConnect : Bool) :
    Call (List UInt8) SettingsFrame := fun b =>
  if b = [] then .ok frame b
  else
    match first : Quicvarint.read b with
    | .error e s => .error e s
    | .panic m => .panic m
    | .ok id b₁ =>
      match second : Quicvarint.read b₁ with
      | .error e s => .error e s
      | .panic m => .panic m
      | .ok val b₂ =>
        if id = settingExtendedConnect then
          if readExtendedConnect then .error ("duplicate setting: " ++ toString id) b₂
          else if val ≠ 0 ∧ val ≠ 1 then
            .error ("invalid value for SETTINGS_ENABLE_CONNECT_PROTOCOL: " ++ toString val) b₂
          else readSettings { frame with extendedConnect := val == 1 } readDatagram true b₂
        else if id = settingDatagram then
          if readDatagram then .error ("duplicate setting: " ++ toString id) b₂
          else if val ≠ 0 ∧ val ≠ 1 then .error ("invalid value for SETTINGS_H3_DATAGRAM: " ++ toString val) b₂
          else readSettings { frame with datagram := val == 1 } true readExtendedConnect b₂
        else if id ∈ frame.other then .error ("duplicate setting: " ++ toString id) b₂
        else readSettings { frame with other := frame.other.insert id val } readDatagram readExtendedConnect b₂
termination_by b => b.length
decreasing_by
  all_goals
    have := Quicvarint.length_lt_of_read first
    have := Quicvarint.length_lt_of_read second
    omega

/-- `parseSettingsFrame`: the frame's `l` bytes are read whole before they are parsed. -/
def parseSettingsFrame (l : Nat) : Call (List UInt8) SettingsFrame := fun r =>
  if l > 8 * (1 <<< 10) then .error ("unexpected size for SETTINGS frame: " ++ toString l) r
  -- `io.ReadFull` of fewer bytes than `l`: `io.EOF`, or `io.ErrUnexpectedEOF` returned as `io.EOF`
  else if r.length < l then .error "EOF" []
  else
    match readSettings ⟨false, false, ∅⟩ false false (r.take l) with
    | .ok frame _ => .ok frame (r.drop l)
    | .error e _ => .error e (r.drop l)
    | .panic m => .panic m

-- the match hypotheses are read only by the termination proof
set_option linter.unusedVariables false in
/-- `parseNextFrame` with a nil unknown-frame handler. -/
def parseNextFrame : Call (List UInt8) Frame := fun r =>
  match first : Quicvarint.read r with
  | .error e s => .error e s
  | .panic m => .panic m
  | .ok t r₁ =>
    match second : Quicvarint.read r₁ with
    | .error e s => .error e s
    | .panic m => .panic m
    | .ok l r₂ =>
      if t = 0x0 then .ok (.data l) r₂
      else if t = 0x1 then .ok (.headers l) r₂
      else if t = 0x4 then
        match parseSettingsFrame l r₂ with
        | .ok f r₃ => .ok (.settings f) r₃
        | .error e s => .error e s
        | .panic m => .panic m
      -- CANCEL_PUSH, PUSH_PROMISE, GOAWAY, MAX_PUSH_ID and unknown frames are skipped;
      -- `io.CopyN` of fewer bytes than `l` returns `io.EOF`
      else if r₂.length < l then .error "EOF" []
      else parseNextFrame (r₂.drop l)
termination_by r => r.length
decreasing_by
  have := Quicvarint.length_lt_of_read first
  have := Quicvarint.length_lt_of_read second
  simp only [List.length_drop]
  omega

/-! ## After the two varints of a frame or a setting -/

theorem parseNextFrame_of_header {r r₁ r₂ : List UInt8} {t l : Nat} (typ : Quicvarint.read r = .ok t r₁)
    (length : Quicvarint.read r₁ = .ok l r₂) :
    parseNextFrame r =
      if t = 0x0 then .ok (.data l) r₂
      else if t = 0x1 then .ok (.headers l) r₂
      else if t = 0x4 then
        match parseSettingsFrame l r₂ with
        | .ok f r₃ => .ok (.settings f) r₃
        | .error e s => .error e s
        | .panic m => .panic m
      else if r₂.length < l then .error "EOF" []
      else parseNextFrame (r₂.drop l) := by
  rw [parseNextFrame]
  split
  · next h => rw [typ] at h; cases h
  · next h => rw [typ] at h; cases h
  · next t' r₁' h =>
    rw [typ] at h
    cases h
    split
    · next h => rw [length] at h; cases h
    · next h => rw [length] at h; cases h
    · next l' r₂' h =>
      rw [length] at h
      cases h
      rfl

theorem readSettings_of_pair (frame : SettingsFrame) (readDatagram readExtendedConnect : Bool)
    {b b₁ b₂ : List UInt8} {id val : Nat} (idRead : Quicvarint.read b = .ok id b₁)
    (valRead : Quicvarint.read b₁ = .ok val b₂) :
    readSettings frame readDatagram readExtendedConnect b =
      if id = settingExtendedConnect then
        if readExtendedConnect then .error ("duplicate setting: " ++ toString id) b₂
        else if val ≠ 0 ∧ val ≠ 1 then
          .error ("invalid value for SETTINGS_ENABLE_CONNECT_PROTOCOL: " ++ toString val) b₂
        else readSettings { frame with extendedConnect := val == 1 } readDatagram true b₂
      else if id = settingDatagram then
        if readDatagram then .error ("duplicate setting: " ++ toString id) b₂
        else if val ≠ 0 ∧ val ≠ 1 then .error ("invalid value for SETTINGS_H3_DATAGRAM: " ++ toString val) b₂
        else readSettings { frame with datagram := val == 1 } true readExtendedConnect b₂
      else if id ∈ frame.other then .error ("duplicate setting: " ++ toString id) b₂
      else readSettings { frame with other := frame.other.insert id val } readDatagram readExtendedConnect b₂ := by
  have nonempty : b ≠ [] := by
    rintro rfl
    cases idRead
  rw [readSettings, if_neg nonempty]
  split
  · next h => rw [idRead] at h; cases h
  · next h => rw [idRead] at h; cases h
  · next id' b₁' h =>
    rw [idRead] at h
    cases h
    split
    · next h => rw [valRead] at h; cases h
    · next h => rw [valRead] at h; cases h
    · next val' b₂' h =>
      rw [valRead] at h
      cases h
      rfl

theorem readSettings_nil (frame : SettingsFrame) (readDatagram readExtendedConnect : Bool) :
    readSettings frame readDatagram readExtendedConnect [] = .ok frame [] := by
  rw [readSettings, if_pos rfl]

theorem readSettings_datagram (frame : SettingsFrame) (readExtendedConnect : Bool) {b b₁ b₂ : List UInt8}
    (idRead : Quicvarint.read b = .ok settingDatagram b₁) (valRead : Quicvarint.read b₁ = .ok 1 b₂) :
    readSettings frame false readExtendedConnect b =
      readSettings { frame with datagram := true } true readExtendedConnect b₂ := by
  rw [readSettings_of_pair frame false readExtendedConnect idRead valRead]
  simp [settingDatagram, settingExtendedConnect]

theorem readSettings_extendedConnect (frame : SettingsFrame) (readDatagram : Bool) {b b₁ b₂ : List UInt8}
    (idRead : Quicvarint.read b = .ok settingExtendedConnect b₁) (valRead : Quicvarint.read b₁ = .ok 1 b₂) :
    readSettings frame readDatagram false b =
      readSettings { frame with extendedConnect := true } readDatagram true b₂ := by
  rw [readSettings_of_pair frame readDatagram false idRead valRead]
  simp

theorem readSettings_other (frame : SettingsFrame) (readDatagram readExtendedConnect : Bool)
    {b b₁ b₂ : List UInt8} {id val : Nat} (idRead : Quicvarint.read b = .ok id b₁)
    (valRead : Quicvarint.read b₁ = .ok val b₂) (notExtendedConnect : id ≠ settingExtendedConnect)
    (notDatagram : id ≠ settingDatagram) (fresh : id ∉ frame.other) :
    readSettings frame readDatagram readExtendedConnect b =
      readSettings { frame with other := frame.other.insert id val } readDatagram readExtendedConnect b₂ := by
  rw [readSettings_of_pair frame readDatagram readExtendedConnect idRead valRead]
  simp [notExtendedConnect, notDatagram, fresh]

theorem parseSettingsFrame_of_payload {l : Nat} {payload rest s : List UInt8} {frame : SettingsFrame}
    (small : l ≤ 8 * (1 <<< 10)) (length : payload.length = l)
    (settings : readSettings ⟨false, false, ∅⟩ false false payload = .ok frame s) :
    parseSettingsFrame l (payload ++ rest) = .ok frame rest := by
  subst length
  have enough : ¬ (payload ++ rest).length < payload.length := by simp
  rw [parseSettingsFrame, if_neg (by omega), if_neg enough, List.take_left, List.drop_left, settings]

/-! ## Reading back what the writers wrote -/

theorem appendPair_reads {x y : Nat} (xFits : x < 2 ^ 62) (yFits : y < 2 ^ 62) :
    ∃ enc, enc.length = Quicvarint.size x + Quicvarint.size y ∧
      (∀ {σ : Type} (b : List UInt8) (s : σ), appendPair x y b s = .ok (b ++ enc) s) ∧
      ∀ rest, ∃ r₁, Quicvarint.read (enc ++ rest) = .ok x r₁ ∧ Quicvarint.read r₁ = .ok y rest := by
  obtain ⟨encX, lengthX, runX, readX⟩ := Quicvarint.append_reads (Quicvarint.le_maxVarInt8_of_lt xFits)
  obtain ⟨encY, lengthY, runY, readY⟩ := Quicvarint.append_reads (Quicvarint.le_maxVarInt8_of_lt yFits)
  refine ⟨encX ++ encY, by simp [lengthX, lengthY], fun b s => ?_, fun rest => ⟨encY ++ rest, ?_, readY rest⟩⟩
  · simp [appendPair, runX, runY]
  · rw [List.append_assoc]
    exact readX _

theorem appendWhen_reads (c : Bool) (id : Nat) (fits : id < 2 ^ 62) :
    ∃ enc, enc.length = (if c then Quicvarint.size id + Quicvarint.size 1 else 0) ∧
      (∀ {σ : Type} (b : List UInt8) (s : σ),
        Call.appendWhen (c = true) (appendPair id 1) b s = .ok (b ++ enc) s) ∧
      (c = true → ∀ rest, ∃ r₁, Quicvarint.read (enc ++ rest) = .ok id r₁ ∧ Quicvarint.read r₁ = .ok 1 rest) ∧
      (c = false → enc = []) := by
  cases c with
  | false => exact ⟨[], rfl, fun b s => by simp [Call.appendWhen], by simp, fun _ => rfl⟩
  | true =>
    obtain ⟨enc, length, runs, reads⟩ := appendPair_reads fits (show 1 < 2 ^ 62 by decide)
    exact ⟨enc, by simp [length], fun b s => by simp [Call.appendWhen, runs], fun _ => reads, by simp⟩

theorem appendEach_reads : ∀ (es : List (Σ _ : Nat, Nat)), es.NodupKeys →
    (∀ s ∈ es, s.1 < 2 ^ 62 ∧ s.2 < 2 ^ 62 ∧ s.1 ≠ settingExtendedConnect ∧ s.1 ≠ settingDatagram) →
    ∃ enc, enc.length = (es.map fun s => Quicvarint.size s.1 + Quicvarint.size s.2).sum ∧
      (∀ {σ : Type} (b : List UInt8) (s : σ),
        Call.appendEach (fun s => appendPair s.1 s.2) es b s = .ok (b ++ enc) s) ∧
      ∀ frame readDatagram readExtendedConnect, (∀ s ∈ es, s.1 ∉ frame.other) →
        ∃ g, readSettings frame readDatagram readExtendedConnect enc = .ok g [] ∧
          g.datagram = frame.datagram ∧ g.extendedConnect = frame.extendedConnect ∧
          ∀ id, g.other.lookup id = (frame.other.lookup id).or (es.dlookup id) := by
  intro es
  induction es with
  | nil =>
    intro _ _
    exact ⟨[], rfl, fun b s => by simp [Call.appendEach],
      fun frame readDatagram readExtendedConnect _ =>
        ⟨frame, readSettings_nil .., rfl, rfl, fun id => by simp⟩⟩
  | cons e es ih =>
    intro nodup valid
    obtain ⟨id, val⟩ := e
    obtain ⟨idFits, valFits, notExtendedConnect, notDatagram⟩ := valid ⟨id, val⟩ (by simp)
    rw [List.nodupKeys_cons] at nodup
    obtain ⟨encPair, lengthPair, runPair, readPair⟩ := appendPair_reads idFits valFits
    obtain ⟨encRest, lengthRest, runRest, readRest⟩ :=
      ih nodup.2 (fun s member => valid s (List.mem_cons_of_mem _ member))
    refine ⟨encPair ++ encRest, by simp [lengthPair, lengthRest], fun b s => by simp [Call.appendEach, runPair, runRest],
      fun frame readDatagram readExtendedConnect fresh => ?_⟩
    obtain ⟨b₁, idRead, valRead⟩ := readPair encRest
    have idFresh : id ∉ frame.other := fresh ⟨id, val⟩ (by simp)
    have restFresh : ∀ s ∈ es, s.1 ∉ frame.other.insert id val := by
      intro s member
      have other : s.1 ≠ id := by
        rintro same
        have key := List.mem_keys_of_mem member
        rw [same] at key
        exact nodup.1 key
      simp [AList.mem_insert, other, fresh s (List.mem_cons_of_mem _ member)]
    obtain ⟨g, run, datagram, extendedConnect, lookup⟩ :=
      readRest { frame with other := frame.other.insert id val } readDatagram readExtendedConnect restFresh
    refine ⟨g, ?_, datagram, extendedConnect, fun x => ?_⟩
    · rw [readSettings_other frame readDatagram readExtendedConnect idRead valRead notExtendedConnect
        notDatagram idFresh]
      exact run
    · rw [lookup x]
      by_cases same : x = id
      · subst same
        simp [AList.lookup_insert, AList.lookup_eq_none.mpr idFresh]
      · simp [AList.lookup_insert_ne same, List.dlookup_cons_ne es ⟨id, val⟩ same]

theorem SettingsFrame.append_reads (f : SettingsFrame)
    (fits : ∀ s ∈ f.other.entries, s.1 < 2 ^ 62 ∧ s.2 < 2 ^ 62)
    (noExtendedConnect : settingExtendedConnect ∉ f.other) (noDatagram : settingDatagram ∉ f.other)
    (small : f.payloadLength ≤ 8 * (1 <<< 10)) :
    ∃ enc, (∀ {σ : Type} (b : List UInt8) (s : σ), f.append b s = .ok (b ++ enc) s) ∧
      ∀ rest, ∃ g, parseNextFrame (enc ++ rest) = .ok (.settings g) rest ∧ g.Same f := by
  obtain ⟨encType, -, runType, readType⟩ := Quicvarint.append_reads (show 0x4 ≤ Quicvarint.maxVarInt8 by decide)
  obtain ⟨encLength, -, runLength, readLength⟩ :=
    Quicvarint.append_reads (show f.payloadLength ≤ Quicvarint.maxVarInt8 by unfold Quicvarint.maxVarInt8; omega)
  obtain ⟨encDatagram, lengthDatagram, runDatagram, readDatagram, noDatagramSetting⟩ :=
    appendWhen_reads f.datagram settingDatagram (by decide)
  obtain ⟨encConnect, lengthConnect, runConnect, readConnect, noConnectSetting⟩ :=
    appendWhen_reads f.extendedConnect settingExtendedConnect (by decide)
  have others : ∀ s ∈ f.other.entries,
      s.1 < 2 ^ 62 ∧ s.2 < 2 ^ 62 ∧ s.1 ≠ settingExtendedConnect ∧ s.1 ≠ settingDatagram := by
    intro s member
    have key : s.1 ∈ f.other := List.mem_keys_of_mem member
    refine ⟨(fits s member).1, (fits s member).2, ?_, ?_⟩
    · rintro same
      exact noExtendedConnect (same ▸ key)
    · rintro same
      exact noDatagram (same ▸ key)
  obtain ⟨encOther, lengthOther, runOther, readOther⟩ := appendEach_reads f.other.entries f.other.nodupKeys others
  have payloadLength : (encDatagram ++ encConnect ++ encOther).length = f.payloadLength := by
    simp only [List.length_append, lengthDatagram, lengthConnect, lengthOther, SettingsFrame.payloadLength]
    omega
  refine ⟨encType ++ encLength ++ (encDatagram ++ encConnect ++ encOther), fun b s => ?_, fun rest => ?_⟩
  · simp [SettingsFrame.append, runType, runLength, runDatagram, runConnect, runOther]
  have afterDatagram : ∀ rest, readSettings ⟨false, false, ∅⟩ false false (encDatagram ++ rest) =
      readSettings ⟨f.datagram, false, ∅⟩ f.datagram false rest := by
    intro rest
    cases written : f.datagram with
    | false => rw [noDatagramSetting written, List.nil_append]
    | true =>
      obtain ⟨b₁, idRead, valRead⟩ := readDatagram written rest
      exact readSettings_datagram _ false idRead valRead
  have afterConnect : ∀ rest, readSettings ⟨f.datagram, false, ∅⟩ f.datagram false (encConnect ++ rest) =
      readSettings ⟨f.datagram, f.extendedConnect, ∅⟩ f.datagram f.extendedConnect rest := by
    intro rest
    cases written : f.extendedConnect with
    | false => rw [noConnectSetting written, List.nil_append]
    | true =>
      obtain ⟨b₁, idRead, valRead⟩ := readConnect written rest
      exact readSettings_extendedConnect _ f.datagram idRead valRead
  obtain ⟨g, settings, datagram, extendedConnect, lookup⟩ :=
    readOther ⟨f.datagram, f.extendedConnect, ∅⟩ f.datagram f.extendedConnect (by simp)
  have payload : readSettings ⟨false, false, ∅⟩ false false (encDatagram ++ encConnect ++ encOther) = .ok g [] := by
    rw [List.append_assoc, afterDatagram, afterConnect, settings]
  refine ⟨g, ?_, datagram, extendedConnect, fun id => ?_⟩
  · rw [List.append_assoc, List.append_assoc,
      parseNextFrame_of_header (readType _) (readLength _),
      parseSettingsFrame_of_payload small payloadLength payload]
    simp
  · rw [lookup id, AList.lookup_empty, Option.none_or]
    rfl

/-! ## Reading frames again and again -/

theorem length_le_of_parseSettingsFrame {l : Nat} {r r' : List UInt8} {f : SettingsFrame}
    (run : parseSettingsFrame l r = .ok f r') : r'.length ≤ r.length := by
  unfold parseSettingsFrame at run
  split_ifs at run
  split at run
  · cases run
    simp
  · cases run
  · cases run

theorem length_lt_of_parseNextFrame {r r' : List UInt8} {f : Frame} (run : parseNextFrame r = .ok f r') :
    r'.length < r.length := by
  rw [parseNextFrame] at run
  split at run
  · cases run
  · cases run
  · next t r₁ typ =>
    split at run
    · cases run
    · cases run
    · next l r₂ length =>
      have typShorter := Quicvarint.length_lt_of_read typ
      have lengthShorter := Quicvarint.length_lt_of_read length
      split_ifs at run
      · cases run
        omega
      · cases run
        omega
      · split at run
        · next settings =>
          cases run
          have := length_le_of_parseSettingsFrame settings
          omega
        · cases run
        · cases run
      · have skipped := length_lt_of_parseNextFrame run
        simp only [List.length_drop] at skipped
        omega
termination_by r.length
decreasing_by
  simp only [List.length_drop]
  omega

/-- The frames that equal ones were read as. -/
def Frame.Same : Frame → Frame → Prop
  | .data l, .data l' => l = l'
  | .headers l, .headers l' => l = l'
  | .settings f, .settings g => f.Same g
  | _, _ => False

/-- The bytes a caller reads after a frame before it asks for the next: a DATA
or HEADERS frame's payload. -/
def Frame.payloadLength : Frame → Nat
  | .data l => l
  | .headers l => l
  | .settings _ => 0

-- the match hypotheses are read only by the termination proof
set_option linter.unusedVariables false in
/-- `parseNextFrame` called again and again, the caller reading each payload it
leaves, until a call does not return a frame. -/
def readFrames (r : List UInt8) : List Frame × Result (List UInt8) Frame :=
  match h : parseNextFrame r with
  | .ok f r' =>
    let later := readFrames (r'.drop f.payloadLength)
    (f :: later.1, later.2)
  | stop => ([], stop)
termination_by r.length
decreasing_by
  have := length_lt_of_parseNextFrame h
  simp only [List.length_drop]
  omega

theorem readFrames_of_ok {r r' : List UInt8} {f : Frame} (run : parseNextFrame r = .ok f r') :
    readFrames r = (f :: (readFrames (r'.drop f.payloadLength)).1, (readFrames (r'.drop f.payloadLength)).2) := by
  rw [readFrames]
  split
  · next f' r'' h =>
    rw [run] at h
    cases h
    rfl
  · next notOk =>
    rw [run] at notOk
    exact absurd rfl (notOk f r')

theorem readFrames_of_stop {r : List UInt8} (stop : ∀ f r', parseNextFrame r ≠ .ok f r') :
    readFrames r = ([], parseNextFrame r) := by
  rw [readFrames]
  split
  · next f r' h => exact absurd h (stop f r')
  · rfl

theorem readFrames_congr {r r' : List UInt8} (same : parseNextFrame r = parseNextFrame r') :
    readFrames r = readFrames r' := by
  by_cases frame : ∃ f rest, parseNextFrame r' = .ok f rest
  · obtain ⟨f, rest, run⟩ := frame
    rw [readFrames_of_ok (same.trans run), readFrames_of_ok run]
  · have stop : ∀ f rest, parseNextFrame r' ≠ .ok f rest := fun f rest run => frame ⟨f, rest, run⟩
    rw [readFrames_of_stop (same ▸ stop), readFrames_of_stop stop, same]

theorem readFrames_nil : readFrames [] = ([], .error "EOF" []) := by
  have ended : parseNextFrame [] = .error "EOF" [] := by
    rw [parseNextFrame]
    rfl
  rw [readFrames_of_stop (fun f r' => by simp [ended]), ended]

/-! ## Frames written back to back -/

/-- What a peer writes on a stream: DATA and HEADERS frames with their
payloads, SETTINGS frames, and frames of any other type with theirs. -/
inductive Item where
  | data (payload : List UInt8)
  | headers (payload : List UInt8)
  | settings (f : SettingsFrame)
  | other (typ : Nat) (payload : List UInt8)

namespace Item

def append {σ : Type} : Item → List UInt8 → Call σ (List UInt8)
  | .data payload, b => do
    let b ← dataFrameAppend payload.length b
    pure (b ++ payload)
  | .headers payload, b => do
    let b ← headersFrameAppend payload.length b
    pure (b ++ payload)
  | .settings f, b => f.append b
  | .other typ payload, b => do
    let b ← appendPair typ payload.length b
    pure (b ++ payload)

/-- The frame `parseNextFrame` should return for an item; it skips the others. -/
def frame : Item → Option Frame
  | .data payload => some (.data payload.length)
  | .headers payload => some (.headers payload.length)
  | .settings f => some (.settings f)
  | .other .. => none

/-- Every varint below 2^62; a SETTINGS frame whose `Other` holds neither
setting it has a flag for, of the size `parseSettingsFrame` takes; another
frame of a type `parseNextFrame` skips. -/
def Valid : Item → Prop
  | .data payload => payload.length < 2 ^ 62
  | .headers payload => payload.length < 2 ^ 62
  | .settings f => (∀ s ∈ f.other.entries, s.1 < 2 ^ 62 ∧ s.2 < 2 ^ 62) ∧
      settingExtendedConnect ∉ f.other ∧ settingDatagram ∉ f.other ∧ f.payloadLength ≤ 8 * (1 <<< 10)
  | .other typ payload => typ ≠ 0x0 ∧ typ ≠ 0x1 ∧ typ ≠ 0x4 ∧ typ < 2 ^ 62 ∧ payload.length < 2 ^ 62

instance (item : Item) : Decidable item.Valid := by
  cases item <;> unfold Valid <;> infer_instance

theorem append_reads (item : Item) (valid : item.Valid) :
    ∃ enc, (∀ {σ : Type} (b : List UInt8) (s : σ), item.append b s = .ok (b ++ enc) s) ∧
      ∀ rest, ∃ parsed, List.Forall₂ Frame.Same parsed item.frame.toList ∧
        readFrames (enc ++ rest) = (parsed ++ (readFrames rest).1, (readFrames rest).2) := by
  cases item with
  | data payload =>
    obtain ⟨hdr, -, runs, reads⟩ := appendPair_reads (show 0x0 < 2 ^ 62 by decide) valid
    refine ⟨hdr ++ payload, fun b s => by simp [append, dataFrameAppend, runs],
      fun rest => ⟨[.data payload.length], by simp [frame, Frame.Same], ?_⟩⟩
    obtain ⟨r₁, typ, length⟩ := reads (payload ++ rest)
    rw [List.append_assoc, readFrames_of_ok (by rw [parseNextFrame_of_header typ length]; rfl)]
    simp [Frame.payloadLength]
  | headers payload =>
    obtain ⟨hdr, -, runs, reads⟩ := appendPair_reads (show 0x1 < 2 ^ 62 by decide) valid
    refine ⟨hdr ++ payload, fun b s => by simp [append, headersFrameAppend, runs],
      fun rest => ⟨[.headers payload.length], by simp [frame, Frame.Same], ?_⟩⟩
    obtain ⟨r₁, typ, length⟩ := reads (payload ++ rest)
    rw [List.append_assoc, readFrames_of_ok (by rw [parseNextFrame_of_header typ length]; rfl)]
    simp [Frame.payloadLength]
  | settings f =>
    obtain ⟨fits, noExtendedConnect, noDatagram, small⟩ := valid
    obtain ⟨enc, runs, reads⟩ := f.append_reads fits noExtendedConnect noDatagram small
    refine ⟨enc, runs, fun rest => ?_⟩
    obtain ⟨g, parsed, same⟩ := reads rest
    refine ⟨[.settings g], by simpa [frame, Frame.Same] using same, ?_⟩
    rw [readFrames_of_ok parsed]
    simp [Frame.payloadLength]
  | other typ payload =>
    obtain ⟨notData, notHeaders, notSettings, typFits, lengthFits⟩ := valid
    obtain ⟨hdr, -, runs, reads⟩ := appendPair_reads typFits lengthFits
    refine ⟨hdr ++ payload, fun b s => by simp [append, runs], fun rest => ⟨[], by simp [frame], ?_⟩⟩
    obtain ⟨r₁, typRead, lengthRead⟩ := reads (payload ++ rest)
    have skipped : parseNextFrame (hdr ++ payload ++ rest) = parseNextFrame rest := by
      rw [List.append_assoc, parseNextFrame_of_header typRead lengthRead]
      simp [notData, notHeaders, notSettings]
    rw [readFrames_congr skipped, List.nil_append]

end Item

theorem appendEach_reads_items : ∀ items : List Item, (∀ item ∈ items, item.Valid) →
    ∃ bytes, (∀ {σ : Type} (b : List UInt8) (s : σ), Call.appendEach Item.append items b s = .ok (b ++ bytes) s) ∧
      ∃ frames, readFrames bytes = (frames, .error "EOF" []) ∧
        List.Forall₂ Frame.Same frames (items.filterMap Item.frame) := by
  intro items
  induction items with
  | nil =>
    intro _
    exact ⟨[], fun b s => by simp [Call.appendEach], [], readFrames_nil, .nil⟩
  | cons item items ih =>
    intro valid
    obtain ⟨enc, runs, reads⟩ := item.append_reads (valid item List.mem_cons_self)
    obtain ⟨bytes, runRest, frames, readRest, same⟩ :=
      ih (fun other member => valid other (List.mem_cons_of_mem _ member))
    obtain ⟨parsed, sameItem, readItem⟩ := reads bytes
    have expected : (item :: items).filterMap Item.frame = item.frame.toList ++ items.filterMap Item.frame := by
      cases known : item.frame <;> simp [known]
    refine ⟨enc ++ bytes, fun b s => by simp [Call.appendEach, runs, runRest], parsed ++ frames, ?_, ?_⟩
    · rw [readItem, readRest]
    · rw [expected]
      exact List.rel_append sameItem same

theorem parseNextFrame_serialized (items : List Item) (valid : ∀ item ∈ items, item.Valid) {σ : Type} (s : σ) :
    ∃ bytes, Call.appendEach Item.append items [] s = .ok bytes s ∧
      ∃ frames, readFrames bytes = (frames, .error "EOF" []) ∧
        List.Forall₂ Frame.Same frames (items.filterMap Item.frame) := by
  obtain ⟨bytes, runs, read⟩ := appendEach_reads_items items valid
  exact ⟨bytes, by simpa using runs [] s, read⟩
/-- A client's control stream and request stream run together: its SETTINGS
with one setting of its own, a HEADERS frame, a frame of a reserved type, and
a DATA frame. -/
def requestItems : List Item :=
  [.settings ⟨true, false, (∅ : AList (fun _ : Nat => Nat)).insert 0x21 7⟩, .headers [0xd1, 0xd7],
    .other 0x21 [0, 0, 0], .data [0x68, 0x69]]

theorem parseNextFrame_serialized_requestItems :
    (∀ item ∈ requestItems, item.Valid) ∧
      ∃ bytes, Call.appendEach Item.append requestItems [] () = .ok bytes () ∧
        ∃ frames, readFrames bytes = (frames, .error "EOF" []) ∧
          List.Forall₂ Frame.Same frames (requestItems.filterMap Item.frame) :=
  ⟨by decide, parseNextFrame_serialized requestItems (by decide) ()⟩

end QuicFec.Http3
