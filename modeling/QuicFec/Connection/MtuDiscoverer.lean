import QuicFec.Lib.Go
import QuicFec.Protocol

/-! # Path MTU discovery

`mtu_discoverer.go`: once the handshake is confirmed, the connection searches
for the largest datagram the path carries, by a binary search between the size
it started with and the peer's limit.  A probe of the middle size goes out in a
packet of its own; acknowledged, its size becomes the current one, lost, it
becomes the upper end.

The finder's `mtuIncreased` callback is `sentPacketHandler.SetMaxDatagramSize`,
which hands the size on to `cubicSender.SetMaxDatagramSize`.  `PathMTU` keeps
the finder beside the one field of the congestion controller that call checks,
and logs the sizes handed to it.  Times are nanoseconds and Go's zero
`time.Time` is `none`.  `GetPing` reads the clock once more, right after
`ShouldSendProbe(now)` said yes, and the model reads `now` there too; the PING
frame and its handler, which `GetPing` also returns, are left out.

Along every run in which the loss recovery reports each probe packet at most
once (`Honest`), no call panics, each probe lies strictly between the current
size and the upper end, the current size never falls, the sizes handed to
`mtuIncreased` increase, and at most `log2 ((max - start) / maxMTUDiff) + 1`
probes go out (`mtuDiscoverer_run`).  The current size stays below the peer's
limit only where the search starts below it: an IPv4 path starts at 1252
bytes, and a peer may announce 1200. -/
set_option autoImplicit false

namespace QuicFec

open Go QuicFec.Protocol

/-- `net.Addr`, as far as `getMaxPacketSize` looks at it. -/
inductive RemoteAddr where
  | udpIPv4
  | udpIPv6
  | other
deriving DecidableEq, Repr

/-- `getMaxPacketSize`: the size a connection starts with. -/
def getMaxPacketSize : RemoteAddr → Nat
  | .udpIPv4 => initialPacketSizeIPv4
  | .udpIPv6 => initialPacketSizeIPv6
  | .other => minInitialPacketSize

/-- The size `handleHandshakeConfirmed` starts the search with, from the peer's
`max_udp_payload_size` (0 when it sent none). -/
def peerMaxPacketSize (maxUDPPayloadSize : Nat) : Nat :=
  min (if maxUDPPayloadSize = 0 then maxByteCount else maxUDPPayloadSize) maxPacketBufferSize

def maxMTUDiff : Int := 20

/-- `mtuProbeDelay`, in smoothed RTTs. -/
def mtuProbeDelay : Int := 5

/-- `mtuFinder`; `inFlight` is the size of the probe in flight, or
`InvalidByteCount`. -/
structure MtuFinder where
  lastProbeTime : Option Int
  inFlight : Int
  current : Int
  max : Int
deriving DecidableEq, Repr

namespace MtuFinder

/-- `newMTUDiscoverer`; `max` stays 0 until `Start`. -/
def newMTUDiscoverer (start : Int) : MtuFinder := ⟨none, invalidByteCount, start, 0⟩

def done (f : MtuFinder) : Bool := decide (f.max - f.current ≤ maxMTUDiff + 1)

/-- `mtuFinder.Start`, at time `now`. -/
def start (maxPacketSize now : Int) (f : MtuFinder) : MtuFinder :=
  { f with lastProbeTime := some now, max := maxPacketSize }

/-- `mtuFinder.ShouldSendProbe(now)`, with the smoothed RTT it reads. -/
def shouldSendProbe (smoothedRTT now : Int) (f : MtuFinder) : Bool :=
  match f.lastProbeTime with
  | none => false
  | some lastProbeTime =>
      if f.max = 0 then false
      else if decide (f.inFlight ≠ invalidByteCount) || f.done then false
      else !decide (now < lastProbeTime + mtuProbeDelay * smoothedRTT)

/-- `mtuFinder.GetPing`: the probe's size. -/
def getPing (now : Int) (f : MtuFinder) : Int × MtuFinder :=
  let size := (f.max + f.current).tdiv 2
  (size, { f with lastProbeTime := some now, inFlight := size })

end MtuFinder

/-- The finder with what its `mtuIncreased` callback reaches: the congestion
controller's `maxDatagramSize`, and the sizes handed over so far. -/
structure PathMTU where
  finder : MtuFinder
  maxDatagramSize : Int
  increased : List Int
deriving DecidableEq, Repr

namespace PathMTU

/-- `cubicSender.SetMaxDatagramSize`, the finder's `mtuIncreased`; the
congestion window and the pacer it also sets are left out. -/
def mtuIncreased (s : Int) : Call PathMTU Unit := do
  let p ← Call.get
  if s < p.maxDatagramSize then
    Call.panic s!"congestion BUG: decreased max datagram size from {p.maxDatagramSize} to {s}"
  Call.modify fun p => { p with maxDatagramSize := s, increased := p.increased ++ [s] }

def onAcked : Call PathMTU Unit := do
  let size := (← Call.get).finder.inFlight
  if size = invalidByteCount then
    Call.panic "OnAcked callback called although there's no MTU probe packet in flight"
  Call.modify fun p => { p with finder := { p.finder with inFlight := invalidByteCount, current := size } }
  mtuIncreased size

def onLost : Call PathMTU Unit := do
  let size := (← Call.get).finder.inFlight
  if size = invalidByteCount then
    Call.panic "OnLost callback called although there's no MTU probe packet in flight"
  Call.modify fun p => { p with finder := { p.finder with max := size, inFlight := invalidByteCount } }

/-- What reaches the finder once the handshake is confirmed: `sendPackets`
asking it for a probe, or the loss recovery acknowledging or losing the probe
packet. -/
inductive Event where
  | sendPackets (now smoothedRTT : Int)
  | acked
  | lost
deriving DecidableEq, Repr

/-- One event; `sendPackets` returns the size of the probe it sends, if any. -/
def step : Event → Call PathMTU (Option Int)
  | .sendPackets now smoothedRTT => do
      let p ← Call.get
      if p.finder.shouldSendProbe smoothedRTT now then
        let (size, finder) := p.finder.getPing now
        Call.set { p with finder := finder }
        pure (some size)
      else pure none
  | .acked => do
      onAcked
      pure none
  | .lost => do
      onLost
      pure none

/-- A run of events: the sizes of the probes sent, in order. -/
def run : List Event → Call PathMTU (List Int)
  | [] => pure []
  | e :: es => do
      let sent ← step e
      let rest ← run es
      pure (sent.toList ++ rest)

/-- The path when the handshake is confirmed at `now`: a finder made with
`start` and started with `maxPacketSize`, and a congestion controller made
with `start` (`NewAckHandler` gets the same `getMaxPacketSize`). -/
def started (start maxPacketSize now : Int) : PathMTU :=
  ⟨(MtuFinder.newMTUDiscoverer start).start maxPacketSize now, start, []⟩

/-- The loss recovery calls `OnAcked` or `OnLost` once for each probe packet,
so only while one is in flight. -/
def Event.Allowed (p : PathMTU) : Event → Prop
  | .sendPackets .. => True
  | .acked | .lost => p.finder.inFlight ≠ invalidByteCount

instance Event.decidableAllowed (p : PathMTU) : (e : Event) → Decidable (e.Allowed p)
  | .sendPackets .. => inferInstanceAs (Decidable True)
  | .acked | .lost => inferInstanceAs (Decidable (p.finder.inFlight ≠ invalidByteCount))

/-- Every event of the run comes when it is allowed. -/
def Honest : List Event → PathMTU → Prop
  | [], _ => True
  | e :: es, p => e.Allowed p ∧ ∀ sent p', step e p = .ok sent p' → Honest es p'

/-- `P` holds of every step the run takes: of the path before it, the probe it
sent, and the path after it. -/
def Along (P : PathMTU → Option Int → PathMTU → Prop) : List Event → PathMTU → Prop
  | [], _ => True
  | e :: es, p => ∀ sent p', step e p = .ok sent p' → P p sent p' ∧ Along P es p'

/-! ## One call at a time -/

section Calls

variable {p : PathMTU}

theorem mtuIncreased_of_le {s : Int} (above : p.maxDatagramSize ≤ s) :
    mtuIncreased s p = .ok () { p with maxDatagramSize := s, increased := p.increased ++ [s] } := by
  have notBelow : ¬ s < p.maxDatagramSize := by omega
  simp [mtuIncreased, notBelow]

theorem onAcked_of_inFlight (inFlight : p.finder.inFlight ≠ invalidByteCount)
    (above : p.maxDatagramSize ≤ p.finder.inFlight) :
    onAcked p = .ok ()
      { finder := { p.finder with inFlight := invalidByteCount, current := p.finder.inFlight }
        maxDatagramSize := p.finder.inFlight
        increased := p.increased ++ [p.finder.inFlight] } := by
  simp only [onAcked, Call.bind_apply, Call.get_apply, inFlight, if_false, Call.modify_apply]
  exact mtuIncreased_of_le above

theorem onLost_of_inFlight (inFlight : p.finder.inFlight ≠ invalidByteCount) :
    onLost p = .ok () { p with finder := { p.finder with max := p.finder.inFlight, inFlight := invalidByteCount } } := by
  simp [onLost, inFlight]

theorem step_sendPackets_of_shouldSendProbe {now smoothedRTT : Int}
    (should : p.finder.shouldSendProbe smoothedRTT now = true) :
    step (.sendPackets now smoothedRTT) p = .ok (some (p.finder.getPing now).1)
      { p with finder := (p.finder.getPing now).2 } := by
  simp [step, should]

theorem step_sendPackets_of_not {now smoothedRTT : Int}
    (should : p.finder.shouldSendProbe smoothedRTT now = false) :
    step (.sendPackets now smoothedRTT) p = .ok none p := by
  simp [step, should]

theorem idle_of_shouldSendProbe {f : MtuFinder} {now smoothedRTT : Int}
    (should : f.shouldSendProbe smoothedRTT now = true) :
    f.inFlight = invalidByteCount ∧ maxMTUDiff + 1 < f.max - f.current := by
  unfold MtuFinder.shouldSendProbe at should
  split at should
  case h_1 => exact absurd should Bool.false_ne_true
  case h_2 =>
    split at should
    case isTrue => exact absurd should Bool.false_ne_true
    case isFalse =>
      split at should
      case isTrue => exact absurd should Bool.false_ne_true
      case isFalse busy =>
        simp only [MtuFinder.done, Bool.or_eq_true, decide_eq_true_eq, not_or, not_not, not_le] at busy
        exact busy

theorem getPing_middle {f : MtuFinder} (now : Int) (nonneg : 0 ≤ f.current)
    (open_ : maxMTUDiff + 1 < f.max - f.current) :
    (f.getPing now).1 = (f.max + f.current) / 2 := by
  unfold maxMTUDiff at open_
  exact Int.tdiv_eq_ediv_of_nonneg (by omega)

theorem getPing_between {f : MtuFinder} (now : Int) (nonneg : 0 ≤ f.current)
    (open_ : maxMTUDiff + 1 < f.max - f.current) :
    f.current < (f.getPing now).1 ∧ (f.getPing now).1 < f.max := by
  rw [getPing_middle now nonneg open_]
  unfold maxMTUDiff at open_
  omega

end Calls

/-! ## The search's invariant -/

/-- The path between two events of a search from `start` up to
`maxPacketSize` that may send `budget` more probes: the gap the search still
has to close is at most `maxMTUDiff * 2 ^ budget + 1`, which is halved with
each probe; the congestion controller's size is the current one, reached
through the sizes handed to `mtuIncreased`. -/
structure Searching (start maxPacketSize : Int) (budget : Nat) (p : PathMTU) : Prop where
  startNonneg : 0 ≤ start
  maxBelow : p.finder.max ≤ maxPacketSize
  currentFrom : start ≤ p.finder.current
  currentBelow : p.finder.current ≤ p.finder.max ∨ p.finder.current = start
  congestion : p.maxDatagramSize = p.finder.current
  increasing : (start :: p.increased).IsChain (· < ·)
  latest : (start :: p.increased).getLast (List.cons_ne_nil _ _) = p.finder.current
  idle : p.finder.inFlight = invalidByteCount →
    p.finder.max - p.finder.current ≤ maxMTUDiff * 2 ^ budget + 1
  probing : p.finder.inFlight ≠ invalidByteCount →
    p.finder.current < p.finder.inFlight ∧ p.finder.inFlight < p.finder.max ∧
      p.finder.max - p.finder.inFlight ≤ maxMTUDiff * 2 ^ budget + 1 ∧
      p.finder.inFlight - p.finder.current ≤ maxMTUDiff * 2 ^ budget + 1

/-- What one step keeps: a probe lies strictly between the current size and the
upper end, and the current size neither falls nor passes the larger of the
start and the peer's limit. -/
def Advances (start maxPacketSize : Int) (p : PathMTU) (sent : Option Int) (p' : PathMTU) : Prop :=
  (∀ size ∈ sent, p.finder.current < size ∧ size < p.finder.max ∧ p.finder.max ≤ maxPacketSize) ∧
    p.finder.current ≤ p'.finder.current ∧ p'.finder.current ≤ max start maxPacketSize

section Invariant

variable {start maxPacketSize : Int} {budget : Nat} {p : PathMTU}

theorem Searching.current_le_max (searching : Searching start maxPacketSize budget p) :
    p.finder.current ≤ max start maxPacketSize := by
  have := searching.maxBelow
  rcases searching.currentBelow with below | atStart
  · omega
  · omega

theorem Searching.current_nonneg (searching : Searching start maxPacketSize budget p) :
    0 ≤ p.finder.current :=
  Int.le_trans searching.startNonneg searching.currentFrom

theorem searching_started (start maxPacketSize : Nat) (now : Int) :
    Searching start maxPacketSize
      (Nat.log2 (((maxPacketSize : Int) - start) / maxMTUDiff).toNat + 1)
      (started start maxPacketSize now) := by
  have cover := @Nat.lt_log2_self ((((maxPacketSize : Int) - start) / maxMTUDiff).toNat)
  have power : ((2 ^ (Nat.log2 (((maxPacketSize : Int) - start) / maxMTUDiff).toNat + 1) : Nat) : Int) =
      (2 : Int) ^ (Nat.log2 (((maxPacketSize : Int) - start) / maxMTUDiff).toNat + 1) := by
    push_cast
    rfl
  constructor
  case startNonneg => exact Int.natCast_nonneg _
  case maxBelow => exact Int.le_refl _
  case currentFrom => exact Int.le_refl _
  case currentBelow =>
    exact .inr rfl
  case congestion => rfl
  case increasing => exact List.isChain_singleton _
  case latest => rfl
  case idle =>
    intro _
    simp only [started, MtuFinder.start, MtuFinder.newMTUDiscoverer, maxMTUDiff] at cover power ⊢
    omega
  case probing =>
    intro inFlight
    exact absurd rfl inFlight

theorem Searching.getPing (searching : Searching start maxPacketSize (budget + 1) p)
    {now smoothedRTT : Int} (should : p.finder.shouldSendProbe smoothedRTT now = true) :
    Searching start maxPacketSize budget { p with finder := (p.finder.getPing now).2 } := by
  obtain ⟨notInFlight, open_⟩ := idle_of_shouldSendProbe should
  have gap := searching.idle notInFlight
  have between := getPing_between now searching.current_nonneg open_
  have middle := getPing_middle now searching.current_nonneg open_
  have double : (2 : Int) ^ (budget + 1) = 2 * 2 ^ budget := by rw [pow_succ, Int.mul_comm]
  rw [double] at gap
  constructor
  case startNonneg => exact searching.startNonneg
  case maxBelow => exact searching.maxBelow
  case currentFrom => exact searching.currentFrom
  case currentBelow => exact .inl (Int.le_of_lt (Int.lt_trans between.1 between.2))
  case congestion => exact searching.congestion
  case increasing => exact searching.increasing
  case latest => exact searching.latest
  case idle =>
    intro inFlight
    have := searching.current_nonneg
    simp only [MtuFinder.getPing, invalidByteCount] at inFlight between
    omega
  case probing =>
    intro _
    simp only [MtuFinder.getPing] at between middle ⊢
    unfold maxMTUDiff at gap ⊢
    omega

theorem Searching.onAcked (searching : Searching start maxPacketSize budget p)
    (inFlight : p.finder.inFlight ≠ invalidByteCount) :
    Searching start maxPacketSize budget
      { finder := { p.finder with inFlight := invalidByteCount, current := p.finder.inFlight }
        maxDatagramSize := p.finder.inFlight
        increased := p.increased ++ [p.finder.inFlight] } := by
  obtain ⟨above, below, closeToMax, _⟩ := searching.probing inFlight
  have from_ := searching.currentFrom
  have latest := searching.latest
  constructor
  case startNonneg => exact searching.startNonneg
  case maxBelow => exact searching.maxBelow
  case currentFrom => exact Int.le_of_lt (Int.lt_of_le_of_lt from_ above)
  case currentBelow => exact .inl (Int.le_of_lt below)
  case congestion => rfl
  case increasing =>
    rw [← List.cons_append]
    refine List.IsChain.append searching.increasing (List.isChain_singleton _) ?_
    intro last isLast first isFirst
    rw [List.getLast?_eq_some_getLast (List.cons_ne_nil _ _), latest] at isLast
    cases isLast
    cases isFirst
    exact above
  case latest => simp
  case idle =>
    intro _
    exact closeToMax
  case probing =>
    intro notInFlight
    exact absurd rfl notInFlight

theorem Searching.onLost (searching : Searching start maxPacketSize budget p)
    (inFlight : p.finder.inFlight ≠ invalidByteCount) :
    Searching start maxPacketSize budget
      { p with finder := { p.finder with max := p.finder.inFlight, inFlight := invalidByteCount } } := by
  obtain ⟨above, below, _, closeToCurrent⟩ := searching.probing inFlight
  constructor
  case startNonneg => exact searching.startNonneg
  case maxBelow => exact Int.le_trans (Int.le_of_lt below) searching.maxBelow
  case currentFrom => exact searching.currentFrom
  case currentBelow => exact .inl (Int.le_of_lt above)
  case congestion => exact searching.congestion
  case increasing => exact searching.increasing
  case latest => exact searching.latest
  case idle =>
    intro _
    exact closeToCurrent
  case probing =>
    intro notInFlight
    exact absurd rfl notInFlight

theorem Searching.step (searching : Searching start maxPacketSize budget p) (e : Event)
    (allowed : e.Allowed p) :
    ∃ sent p' budget', PathMTU.step e p = .ok sent p' ∧
      Searching start maxPacketSize budget' p' ∧ sent.toList.length + budget' ≤ budget ∧
      Advances start maxPacketSize p sent p' := by
  cases e with
  | sendPackets now smoothedRTT =>
      cases should : p.finder.shouldSendProbe smoothedRTT now
      case false =>
        refine ⟨none, p, budget, step_sendPackets_of_not should, searching, by simp, ?_⟩
        exact ⟨(fun _ none => nomatch none), Int.le_refl _, searching.current_le_max⟩
      case true =>
        obtain ⟨notInFlight, open_⟩ := idle_of_shouldSendProbe should
        have between := getPing_between now searching.current_nonneg open_
        cases budget with
        | zero =>
            have gap := searching.idle notInFlight
            simp only [pow_zero, maxMTUDiff] at gap open_
            omega
        | succ budget =>
            have next := searching.getPing should
            refine ⟨some (p.finder.getPing now).1, _, budget, step_sendPackets_of_shouldSendProbe should,
              next, by simp [Nat.add_comm], ?_, Int.le_refl _, next.current_le_max⟩
            intro size sent
            cases sent
            exact ⟨between.1, between.2, searching.maxBelow⟩
  | acked =>
      have congestion := searching.congestion
      have above := (searching.probing allowed).1
      refine ⟨none, _, budget, ?_, searching.onAcked allowed, by simp, ?_⟩
      · simp only [PathMTU.step, Call.bind_apply, onAcked_of_inFlight allowed (by omega), Call.pure_apply]
      · exact ⟨(fun _ none => nomatch none), Int.le_of_lt above, (searching.onAcked allowed).current_le_max⟩
  | lost =>
      refine ⟨none, _, budget, ?_, searching.onLost allowed, by simp, ?_⟩
      · simp only [PathMTU.step, Call.bind_apply, onLost_of_inFlight allowed, Call.pure_apply]
      · exact ⟨(fun _ none => nomatch none), Int.le_refl _, (searching.onLost allowed).current_le_max⟩

theorem Searching.run : ∀ (events : List Event) {budget : Nat} {p : PathMTU},
    Searching start maxPacketSize budget p → Honest events p →
      ∃ probes p', PathMTU.run events p = .ok probes p' ∧ probes.length ≤ budget ∧
        (∃ budget', Searching start maxPacketSize budget' p') ∧
        Along (Advances start maxPacketSize) events p
  | [], budget, p, searching, _ => ⟨[], p, rfl, Nat.zero_le _, ⟨budget, searching⟩, trivial⟩
  | e :: es, budget, p, searching, ⟨allowed, honest⟩ => by
      obtain ⟨sent, p', budget', stepped, next, spent, advances⟩ := searching.step e allowed
      obtain ⟨probes, p'', rest, counted, final, along⟩ := Searching.run es next (honest sent p' stepped)
      refine ⟨sent.toList ++ probes, p'', ?_, ?_, final, ?_⟩
      · simp only [PathMTU.run, Call.bind_apply, stepped, rest, Call.pure_apply]
      · rw [List.length_append]
        omega
      · intro sent' p''' stepped'
        rw [stepped] at stepped'
        cases stepped'
        exact ⟨advances, along⟩

end Invariant

/-- Path MTU discovery, from the start size `start` the connection was made
with and the peer's limit `maxPacketSize` it was started with, along every run
in which each probe packet is acknowledged or lost at most once: no call
panics, every probe lies strictly between the current size and the upper end,
the current size never falls nor passes the larger of `start` and
`maxPacketSize`, the sizes handed to `mtuIncreased` increase from `start` on,
and at most `log2 ((maxPacketSize - start) / maxMTUDiff) + 1` probes go out. -/
theorem mtuDiscoverer_run (start maxPacketSize : Nat) (now : Int) (events : List Event)
    (honest : Honest events (started start maxPacketSize now)) :
    ∃ probes p, run events (started start maxPacketSize now) = .ok probes p ∧
      probes.length ≤ Nat.log2 (((maxPacketSize : Int) - start) / maxMTUDiff).toNat + 1 ∧
      ((start : Int) :: p.increased).IsChain (· < ·) ∧
      Along (Advances start maxPacketSize) events (started start maxPacketSize now) := by
  obtain ⟨probes, p, ran, counted, ⟨_, searching⟩, along⟩ :=
    (searching_started start maxPacketSize now).run events honest
  exact ⟨probes, p, ran, counted, searching.increasing, along⟩

/-- An IPv4 path, starting at 1252 bytes, probes once towards 1452 bytes and
gets the probe acknowledged. -/
theorem mtuDiscoverer_run_ipv4 :
    Honest [.sendPackets 0 0, .acked] (started 1252 1452 0) ∧
      ∃ probes p, run [.sendPackets 0 0, .acked] (started 1252 1452 0) = .ok probes p ∧
        probes.length ≤ Nat.log2 (((1452 : Nat) - ((1252 : Nat) : Int)) / maxMTUDiff).toNat + 1 ∧
        (((1252 : Nat) : Int) :: p.increased).IsChain (· < ·) ∧
        Along (Advances (1252 : Nat) (1452 : Nat)) [.sendPackets 0 0, .acked] (started 1252 1452 0) := by
  have honest : Honest [.sendPackets 0 0, .acked] (started 1252 1452 0) := by
    refine ⟨trivial, ?_⟩
    intro sent p probed
    have probe : step (.sendPackets 0 0) (started 1252 1452 0) =
        .ok (some 1352) ⟨⟨some 0, 1352, 1252, 1452⟩, 1252, []⟩ := by decide
    rw [probe] at probed
    cases probed
    exact ⟨by decide, fun _ _ _ => trivial⟩
  exact ⟨honest, mtuDiscoverer_run 1252 1452 0 _ honest⟩

/-- A peer that announces a `max_udp_payload_size` of 1200 starts the search of
an IPv4 path, made with 1252 bytes, with 1200: the search is done at once, and
the current size stays above the peer's limit. -/
theorem mtuDiscoverer_current_above_peer_limit :
    run [.sendPackets 0 0] (started (getMaxPacketSize .udpIPv4) (peerMaxPacketSize 1200) 0) =
        .ok [] (started (getMaxPacketSize .udpIPv4) (peerMaxPacketSize 1200) 0) ∧
      ((peerMaxPacketSize 1200 : Nat) : Int) <
        (started (getMaxPacketSize .udpIPv4) (peerMaxPacketSize 1200) 0).finder.current := by
  decide

end PathMTU

end QuicFec
