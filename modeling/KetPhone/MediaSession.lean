/-
This file models `media/media_session.cpp` with the codec of `media/g711.cpp` and
asks whether one call's statistics depend on the calls before it.

A start clears the session, and what it leaves does not matter: the source of the
last call is forgotten, the frame that was played last is overwritten before it is
read, and the samples beyond the count of the transit window are written before
they are read. Only the jitter buffer's own counters survive its reset, since the
buffer is also reset in the middle of a call. Two of them are statistics: frames
expanded and frames dropped go on counting from the calls before.
-/

import KetPhone.Rtp
import KetPhone.ReceiveStatistics
import KetPhone.Playout
import KetPhone.SpscRing
import KetPhone.Sdp

namespace KetPhone.Media

open List

/-! ### G.711 A-law -/

/-- Upper bound of each of the eight segments, on the 13-bit magnitude. -/
def kSegmentEnd : List Nat := [0x1f, 0x3f, 0x7f, 0xff, 0x1ff, 0x3ff, 0x7ff, 0xfff]

def alawEncode (sample : Int16) : UInt8 :=
  let magnitude := sample.toInt >>> (3 : Nat)
  let mask := if magnitude ≥ 0 then 0xd5 else 0x55
  let magnitude := (if magnitude ≥ 0 then magnitude else -magnitude - 1).toNat
  let segment := kSegmentEnd.findIdx (magnitude ≤ ·)
  if segment ≥ 8 then UInt8.ofNat (0x7f ^^^ mask)
  else
    let code := segment <<< 4
    let code :=
      code ||| if segment < 2 then (magnitude >>> 1) &&& 0x0f else (magnitude >>> segment) &&& 0x0f
    UInt8.ofNat (code ^^^ mask)

def alawDecode (code : UInt8) : Int16 :=
  let value := code.toNat ^^^ 0x55
  let magnitude := (value &&& 0x0f) <<< 4
  let segment := (value &&& 0x70) >>> 4
  let magnitude : Int :=
    if segment = 0 then magnitude + 8 else ((magnitude + 0x108) <<< (segment - 1) : Nat)
  Int16.ofInt (if value &&& 0x80 ≠ 0 then magnitude else -magnitude)

/-! ### The session -/

/-- 20 ms at 8 kHz. -/
def kFrameSamples : Nat := 160

def kMaxPacketSize : Nat := kRtpHeaderSize.toNat + kFrameSamples

/-- Concealment repeats the last good frame this often. -/
def kConcealRepeats : Nat := 3

structure MediaStats where
  packetsSent : Nat := 0
  packetsReceived : Nat := 0
  packetsLost : Nat := 0
  packetsLate : Nat := 0
  framesConcealed : Nat := 0
  framesExpanded : Nat := 0
  framesDropped : Nat := 0
  jitterMs : Float := 0
  playoutDelayMs : Float := 0

structure MediaSession where
  capture : SpscRing Int16
  playout : SpscRing Int16
  jitter : JitterBuffer
  receive : ReceiveStatistics := {}
  active : Bool := false
  haveRemoteSsrc : Bool := false
  remoteSsrc : UInt32 := 0
  sendHeader : RtpHeader :=
    { payloadType := 0, marker := false, sequence := 0, timestamp := 0, ssrc := 0 }
  counted : MediaStats := {}
  frame : Bytes := []
  lastPlayed : List Int16 := List.replicate kFrameSamples 0
  concealedInARow : Nat := 0

/-- A frame of samples that starts with these. -/
def frameOf (samples : List Int16) : List Int16 :=
  samples.take kFrameSamples ++ List.replicate (kFrameSamples - samples.length) 0

namespace MediaSession

/-- The constructor. -/
def create (capture playout : SpscRing Int16) (initialDelayUs : Int) : MediaSession :=
  { capture, playout, jitter := .create initialDelayUs }

def start (ssrc : UInt32) (firstSequence : UInt16) (firstTimestamp : UInt32)
    (session : MediaSession) : MediaSession :=
  { session with
    capture := session.capture.discard
    jitter := session.jitter.reset
    receive := {}
    counted := {}
    haveRemoteSsrc := false
    lastPlayed := List.replicate kFrameSamples 0
    concealedInARow := 0
    sendHeader :=
      { payloadType := Sip.kPayloadPcma
        ssrc
        sequence := firstSequence
        timestamp := firstTimestamp
        marker := true }
    active := true }

def stop (session : MediaSession) : MediaSession := { session with active := false }

/-- The packet written to an output of this size, or nothing when it does not fit. -/
def nextPacket (room : Nat) (session : MediaSession) : Bytes × MediaSession :=
  let (samples, capture) := session.capture.pop kFrameSamples
  let packet := writeRtp room session.sendHeader ((frameOf samples).map alawEncode)
  if packet.isEmpty then ([], { session with capture })
  else
    (packet,
      { session with
        capture
        sendHeader :=
          { session.sendHeader with
            marker := false
            sequence := session.sendHeader.sequence + 1
            timestamp := session.sendHeader.timestamp + UInt32.ofNat kFrameSamples }
        counted := { session.counted with packetsSent := session.counted.packetsSent + 1 } })

/-- A new source restarts sequence tracking. -/
def follow (ssrc : UInt32) (session : MediaSession) : MediaSession :=
  if !session.haveRemoteSsrc || ssrc != session.remoteSsrc then
    { session with
      haveRemoteSsrc := true
      remoteSsrc := ssrc
      receive := {}
      jitter := session.jitter.reset }
  else session

/-- A payload of the source that was followed. -/
def accept (header : RtpHeader) (payload : Bytes) (arrivalUs : Int) (session : MediaSession) :
    MediaSession :=
  let arrivalRtp := UInt32.ofInt ((arrivalUs * 8).tdiv 1000)
  let (sequence, receive) := session.receive.onPacket header.sequence header.timestamp arrivalRtp
  let (result, _, jitter) := session.jitter.put sequence payload arrivalUs
  let late := if result = .late then 1 else 0
  { session with
    receive
    jitter
    counted :=
      { session.counted with
        packetsReceived := session.counted.packetsReceived + 1
        packetsLate := session.counted.packetsLate + late } }

/-- `on_packet`. A payload that the parser places outside of the datagram is taken as empty. -/
def onPacket (datagram : Datagram) (arrivalUs : Int) (session : MediaSession) : MediaSession :=
  match parseRtp datagram with
  | none => session
  | some packet =>
    if packet.header.payloadType ≠ Sip.kPayloadPcma then session
    else
      (session.follow packet.header.ssrc).accept packet.header
        ((packet.payload.read datagram).getD []) arrivalUs

/-- The samples for a missing frame or a repeated one. -/
def conceal (session : MediaSession) : List Int16 × MediaSession :=
  if session.concealedInARow < kConcealRepeats then
    let halved := session.lastPlayed.map (· / 2)
    (halved,
      { session with lastPlayed := halved, concealedInARow := session.concealedInARow + 1 })
  else
    (List.replicate kFrameSamples 0,
      { session with concealedInARow := session.concealedInARow + 1 })

/-- What `play_frame` makes of a result of `pop`. -/
def render (result : PopResult) (session : MediaSession) : List Int16 × MediaSession :=
  match result with
  | .played payload =>
    let samples := frameOf (payload.map alawDecode)
    (samples, { session with frame := payload, lastPlayed := samples, concealedInARow := 0 })
  | .missing =>
    { session with
      counted :=
        { session.counted with
          framesConcealed := session.counted.framesConcealed + 1 } }.conceal
  | .expanded => session.conceal
  | .buffering => (List.replicate kFrameSamples 0, session)

def playFrame (nowUs : Int) (session : MediaSession) : MediaSession :=
  let (result, _, jitter) := session.jitter.pop nowUs
  let (samples, session) := { session with jitter }.render result
  { session with playout := (session.playout.push samples).2 }

def stats (session : MediaSession) : MediaStats :=
  { session.counted with
    packetsLost := session.receive.lost
    jitterMs := session.receive.jitter / 8.0
    framesExpanded := session.jitter.expanded
    framesDropped := session.jitter.dropped
    playoutDelayMs := Float.ofInt session.jitter.targetDelayUs / 1000.0 }

end MediaSession

/-- What happens to a session: the calls of the engine, and what the audio thread does to the
rings. -/
inductive SessionOp where
  | start (ssrc : UInt32) (firstSequence : UInt16) (firstTimestamp : UInt32)
  | stop
  | nextPacket (room : Nat)
  | onPacket (datagram : Datagram) (arrivalUs : Int)
  | playFrame (nowUs : Int)
  | captured (samples : List Int16)
  | rendered (count : Nat)

def MediaSession.step (session : MediaSession) : SessionOp → MediaSession
  | .start ssrc firstSequence firstTimestamp => session.start ssrc firstSequence firstTimestamp
  | .stop => session.stop
  | .nextPacket room => (session.nextPacket room).2
  | .onPacket datagram arrivalUs => session.onPacket datagram arrivalUs
  | .playFrame nowUs => session.playFrame nowUs
  | .captured samples => { session with capture := (session.capture.push samples).2 }
  | .rendered count => { session with playout := (session.playout.pop count).2 }

/-! ### What a reset leaves -/

namespace JitterBuffer

/-- A buffer with counters that went on from those of an older one, and another window. -/
def carry (buffer old : JitterBuffer) (window : List Int) : JitterBuffer :=
  { buffer with
    window
    expanded := old.expanded + buffer.expanded
    dropped := old.dropped + buffer.dropped
    skipped := old.skipped + buffer.skipped }

/-- A window that has the same samples as that of a buffer with this initial delay. Until it is
full they are recorded from its start on. -/
structure Agrees (initialDelayUs : Int) (window : List Int) (buffer : JitterBuffer) : Prop where
  initial : buffer.initialDelayUs = initialDelayUs
  length : window.length = kWindow
  size : buffer.window.length = kWindow
  samples : window.take buffer.windowCount = buffer.samples
  filling : (buffer.windowNext = buffer.windowCount ∧ buffer.windowCount < kWindow) ∨
    window = buffer.window

variable {initialDelayUs : Int} {old buffer : JitterBuffer} {window : List Int}

theorem Agrees.reset (agrees : Agrees initialDelayUs window buffer) :
    Agrees initialDelayUs window buffer.reset :=
  ⟨agrees.initial, agrees.length, agrees.size, rfl, Or.inl ⟨rfl, Nat.succ_pos _⟩⟩

theorem Agrees.recordTransit (agrees : Agrees initialDelayUs window buffer) (transitUs : Int) :
    Agrees initialDelayUs (window.set buffer.windowNext transitUs)
      (buffer.recordTransit transitUs) := by
  obtain ⟨initial, length, size, samples, ⟨next, short⟩ | rfl⟩ := agrees
  · have count : min (buffer.windowCount + 1) kWindow = buffer.windowCount + 1 :=
      Nat.min_eq_left short
    have recorded : (window.set buffer.windowCount transitUs).take (buffer.windowCount + 1) =
        (buffer.window.set buffer.windowCount transitUs).take (buffer.windowCount + 1) := by
      rw [take_set_concat _ _ _ (length ▸ short), take_set_concat _ _ _ (size ▸ short), samples]
      rfl
    refine ⟨initial, by rw [length_set, length], by
      rw [JitterBuffer.recordTransit, length_set, size], ?_, ?_⟩
    · unfold JitterBuffer.samples JitterBuffer.recordTransit
      dsimp only
      rw [count, next, recorded]
    · unfold JitterBuffer.recordTransit
      dsimp only
      rw [count, next]
      rcases Nat.lt_or_ge (buffer.windowCount + 1) kWindow with more | full
      · exact Or.inl ⟨Nat.mod_eq_of_lt more, more⟩
      · -- The last slot of the window has been filled.
        refine Or.inr ?_
        rwa [take_of_length_le (by rw [length_set, length]; exact full),
          take_of_length_le (by rw [length_set, size]; exact full)] at recorded
  · refine ⟨initial, ?_, ?_, rfl, Or.inr rfl⟩
    · rw [length_set, length]
    · rw [JitterBuffer.recordTransit, length_set, size]

theorem Agrees.fastest (agrees : Agrees initialDelayUs window buffer) :
    (buffer.carry old window).fastest = buffer.fastest := by
  unfold JitterBuffer.fastest
  rw [← agrees.samples]
  rfl

theorem Agrees.desiredOffsetUs (agrees : Agrees initialDelayUs window buffer) :
    (buffer.carry old window).desiredOffsetUs = buffer.desiredOffsetUs := by
  have percentile : (buffer.carry old window).percentile = buffer.percentile := by
    unfold JitterBuffer.percentile
    rw [← agrees.samples]
    rfl
  unfold JitterBuffer.desiredOffsetUs
  rw [percentile, agrees.fastest]
  rfl

theorem Agrees.targetDelayUs (agrees : Agrees initialDelayUs window buffer) :
    (buffer.carry old window).targetDelayUs = buffer.targetDelayUs := by
  unfold JitterBuffer.targetDelayUs
  rw [agrees.desiredOffsetUs, agrees.fastest]
  rfl

/-- A call that does not touch the initial delay and the window. -/
def Unwound (first second : JitterBuffer) : Prop :=
  second.initialDelayUs = first.initialDelayUs ∧ second.window = first.window ∧
    second.windowCount = first.windowCount ∧ second.windowNext = first.windowNext

theorem Agrees.unwound {after : JitterBuffer} (agrees : Agrees initialDelayUs window buffer)
    (unwound : Unwound buffer after) : Agrees initialDelayUs window after := by
  obtain ⟨initial, same, count, next⟩ := unwound
  refine ⟨initial.trans agrees.initial, agrees.length, same ▸ agrees.size, ?_, ?_⟩
  · unfold JitterBuffer.samples
    rw [count, same]
    exact agrees.samples
  · rw [next, count, same]
    exact agrees.filling

/-- A call gives the same result, and the counters and the window are carried through it. -/
def Carried {Result : Type} (old : JitterBuffer) (window : List Int)
    (first second : Result × List Happening × JitterBuffer) : Prop :=
  first = (second.1, second.2.1, second.2.2.carry old window)

theorem emplace_carry (frame : Frame) :
    Carried old window ((buffer.carry old window).emplace frame) (buffer.emplace frame) ∧
      Unwound buffer (buffer.emplace frame).2.2 := by
  have same : (buffer.carry old window).frames = buffer.frames := rfl
  unfold Carried emplace
  rw [same]
  cases buffer.frames.find frame.sequence <;> exact ⟨rfl, rfl, rfl, rfl, rfl⟩

theorem place_carry (frame : Frame) :
    Carried old window ((buffer.carry old window).place frame) (buffer.place frame) ∧
      Unwound buffer (buffer.place frame).2.2 := by
  have same : (buffer.carry old window).next = buffer.next := rfl
  unfold place
  rw [same]
  cases buffer.next with
  | none => exact emplace_carry frame
  | some next =>
    dsimp only
    by_cases before : frame.sequence < next
    · rw [if_pos before, if_pos before]
      change Carried old window (if !buffer.frames.values.isEmpty ||
        !(buffer.lastPlayed.all fun last => decide (frame.sequence > last)) ||
        decide (next - frame.sequence > kMaxRewind) then _ else _) _ ∧ _
      split
      · exact ⟨rfl, rfl, rfl, rfl, rfl⟩
      · obtain ⟨stored, unwound⟩ := @emplace_carry old (buffer.rewindTo frame.sequence) window frame
        refine ⟨?_, unwound⟩
        have moved : (buffer.carry old window).rewindTo frame.sequence =
          (buffer.rewindTo frame.sequence).carry old window := rfl
        unfold Carried at stored ⊢
        rw [moved, stored]
    · rw [if_neg before, if_neg before]
      exact emplace_carry frame

theorem put_carry (agrees : Agrees initialDelayUs window buffer) (sequence : Int) (payload : Bytes)
    (arrivalUs : Int) :
    ∃ after, Carried old after ((buffer.carry old window).put sequence payload arrivalUs)
        (buffer.put sequence payload arrivalUs) ∧
      Agrees initialDelayUs after (buffer.put sequence payload arrivalUs).2.2 := by
  have jumped : (buffer.carry old window).rejoin sequence =
      ((buffer.rejoin sequence).1, (buffer.rejoin sequence).2.carry old window) ∧
      Agrees initialDelayUs window (buffer.rejoin sequence).2 := by
    unfold rejoin
    change (if buffer.next.any fun next => decide (sequence - next > kMaxAhead)
      then _ else _) = _ ∧ _
    split
    · exact ⟨rfl, agrees.reset⟩
    · exact ⟨rfl, agrees⟩
  have recorded := jumped.2.recordTransit (arrivalUs - sequence * kFrameUs)
  obtain ⟨placed, unwound⟩ := @place_carry old
    ((buffer.rejoin sequence).2.recordTransit (arrivalUs - sequence * kFrameUs))
    ((window.set (buffer.rejoin sequence).2.windowNext (arrivalUs - sequence * kFrameUs)))
    { sequence, payload }
  refine ⟨_, ?_, recorded.unwound unwound⟩
  unfold Carried at placed ⊢
  unfold put
  rw [jumped.1]
  change ((place _ (recordTransit _ _)).1, _ ++ (place _ _).2.1, (place _ _).2.2) = _
  have moved : ((buffer.rejoin sequence).2.carry old window).recordTransit
      (arrivalUs - sequence * kFrameUs) =
      ((buffer.rejoin sequence).2.recordTransit (arrivalUs - sequence * kFrameUs)).carry old
        (window.set (buffer.rejoin sequence).2.windowNext (arrivalUs - sequence * kFrameUs)) := rfl
  rw [moved, placed]

theorem shrink_carry (desired : Int) (rounds : Nat) (next offset : Int) :
    (buffer.carry old window).shrink desired rounds next offset =
        ((buffer.shrink desired rounds next offset).1,
          (buffer.shrink desired rounds next offset).2.1,
          (buffer.shrink desired rounds next offset).2.2.carry old window) ∧
      Unwound buffer (buffer.shrink desired rounds next offset).2.2 := by
  induction rounds generalizing buffer next offset with
  | zero => exact ⟨rfl, rfl, rfl, rfl, rfl⟩
  | succ rounds hypothesis =>
    have same : (buffer.carry old window).frames = buffer.frames := rfl
    have pops : (buffer.carry old window).popsSinceDrop = buffer.popsSinceDrop := rfl
    unfold shrink
    rw [same, pops]
    by_cases above : offset > desired + kShrinkAboveUs ∧ !buffer.frames.values.isEmpty
    · rw [if_pos above, if_pos above]
      cases buffer.frames.find next with
      | none =>
        obtain ⟨rest, unwound⟩ := @hypothesis (buffer.skipSlot next) (next + 1)
          (offset - kFrameUs)
        have moved : (buffer.carry old window).skipSlot next =
          (buffer.skipSlot next).carry old window := rfl
        refine ⟨?_, unwound⟩
        dsimp only
        rw [moved, rest]
      | some frame =>
        dsimp only
        by_cases due : buffer.popsSinceDrop ≥ kPopsBetweenDrops
        · rw [if_pos due, if_pos due]
          obtain ⟨rest, unwound⟩ := @hypothesis (buffer.dropFrame next) (next + 1)
            (offset - kFrameUs)
          have moved : (buffer.carry old window).dropFrame next =
            (buffer.dropFrame next).carry old window := rfl
          refine ⟨?_, unwound⟩
          rw [moved, rest]
        · rw [if_neg due, if_neg due]
          exact ⟨rfl, rfl, rfl, rfl, rfl⟩
    · rw [if_neg above, if_neg above]
      exact ⟨rfl, rfl, rfl, rfl, rfl⟩

theorem take_carry (agrees : Agrees initialDelayUs window buffer) (next : Int) :
    Carried old window ((buffer.carry old window).take next) (buffer.take next) ∧
      Agrees initialDelayUs window (buffer.take next).2.2 := by
  have same : (buffer.carry old window).frames = buffer.frames := rfl
  unfold Carried take
  rw [same]
  cases buffer.frames.find next with
  | some frame => exact ⟨rfl, agrees.unwound ⟨rfl, rfl, rfl, rfl⟩⟩
  | none =>
    dsimp only
    change (if (buffer.missSlot next).frames.values.isEmpty ∧
      (buffer.missSlot next).missingInARow ≥ kMissingBeforeRebuffer then _ else _) = _ ∧ _
    have kept : Agrees initialDelayUs window (buffer.missSlot next) :=
      agrees.unwound ⟨rfl, rfl, rfl, rfl⟩
    split
    · exact ⟨rfl, kept.reset⟩
    · exact ⟨rfl, kept⟩

theorem advance_carry (agrees : Agrees initialDelayUs window buffer) (nowUs next : Int) :
    Carried old window ((buffer.carry old window).advance nowUs next) (buffer.advance nowUs next) ∧
      Agrees initialDelayUs window (buffer.advance nowUs next).2.2 := by
  unfold advance
  dsimp only
  rw [agrees.desiredOffsetUs]
  by_cases growing : nowUs - next * kFrameUs < buffer.desiredOffsetUs
  · rw [if_pos growing, if_pos growing]
    exact ⟨rfl, agrees.unwound ⟨rfl, rfl, rfl, rfl⟩⟩
  · rw [if_neg growing, if_neg growing]
    obtain ⟨passed, unwound⟩ := @shrink_carry old buffer window buffer.desiredOffsetUs
      (rounds buffer.desiredOffsetUs (nowUs - next * kFrameUs)) next (nowUs - next * kFrameUs)
    rw [passed]
    generalize buffer.shrink buffer.desiredOffsetUs
      (rounds buffer.desiredOffsetUs (nowUs - next * kFrameUs)) next (nowUs - next * kFrameUs) =
      ended at unwound ⊢
    have counted : Agrees initialDelayUs window ended.2.2.countPop := agrees.unwound unwound
    obtain ⟨taken, kept⟩ := @take_carry _ old _ _ counted ended.2.1
    refine ⟨?_, kept⟩
    have moved : (ended.2.2.carry old window).countPop = ended.2.2.countPop.carry old window := rfl
    unfold Carried at taken ⊢
    dsimp only
    rw [moved, taken]

theorem pop_carry (agrees : Agrees initialDelayUs window buffer) (nowUs : Int) :
    Carried old window ((buffer.carry old window).pop nowUs) (buffer.pop nowUs) ∧
      Agrees initialDelayUs window (buffer.pop nowUs).2.2 := by
  have same : (buffer.carry old window).next = buffer.next := rfl
  have frames : (buffer.carry old window).frames = buffer.frames := rfl
  unfold pop
  rw [same, frames, agrees.desiredOffsetUs]
  cases buffer.next with
  | some next => exact advance_carry agrees nowUs next
  | none =>
    cases buffer.frames.values.head? with
    | none => exact ⟨rfl, agrees⟩
    | some first =>
      dsimp only
      by_cases early : nowUs - first.sequence * kFrameUs < buffer.desiredOffsetUs
      · rw [if_pos early, if_pos early]
        exact ⟨rfl, agrees⟩
      · rw [if_neg early, if_neg early]
        have started : Agrees initialDelayUs window (buffer.startAt first.sequence) :=
          agrees.unwound ⟨rfl, rfl, rfl, rfl⟩
        obtain ⟨taken, kept⟩ := @advance_carry _ old _ _ started nowUs first.sequence
        refine ⟨?_, kept⟩
        have moved : (buffer.carry old window).startAt first.sequence =
          (buffer.startAt first.sequence).carry old window := rfl
        unfold Carried at taken ⊢
        rw [moved, taken]

end JitterBuffer

/-! ### Sessions alike -/

/-- Sessions that count alike, but for what the first one's buffer had counted before. -/
structure Alike (initialDelayUs : Int) (old : JitterBuffer) (first second : MediaSession) :
    Prop where
  jitter : ∃ window, first.jitter = second.jitter.carry old window ∧
    JitterBuffer.Agrees initialDelayUs window second.jitter
  receive : first.receive = second.receive
  haveRemoteSsrc : first.haveRemoteSsrc = second.haveRemoteSsrc
  remoteSsrc : second.haveRemoteSsrc = true → first.remoteSsrc = second.remoteSsrc
  counted : first.counted = second.counted

variable {initialDelayUs : Int} {old : JitterBuffer} {first second : MediaSession}

theorem length_frameOf (samples : List Int16) : (frameOf samples).length = kFrameSamples := by
  unfold frameOf
  rw [length_append, length_take, length_replicate]
  omega

theorem isEmpty_writeRtp (room : Nat) (header : RtpHeader) (payload : List UInt8) :
    (writeRtp room header payload).isEmpty =
      decide (room < kRtpHeaderSize.toNat + payload.length) := by
  unfold writeRtp
  split
  next short => exact (decide_eq_true short).symm
  next fits => exact (decide_eq_false fits).symm

theorem Alike.nextPacket (alike : Alike initialDelayUs old first second) (room : Nat) :
    Alike initialDelayUs old (first.nextPacket room).2 (second.nextPacket room).2 := by
  unfold MediaSession.nextPacket
  dsimp only
  rw [isEmpty_writeRtp, isEmpty_writeRtp, length_map, length_map, length_frameOf,
    length_frameOf]
  split
  · exact { alike with }
  · exact { alike with counted := by rw [alike.counted] }

theorem Alike.follow (alike : Alike initialDelayUs old first second) (ssrc : UInt32) :
    Alike initialDelayUs old (first.follow ssrc) (second.follow ssrc) ∧
      (second.follow ssrc).haveRemoteSsrc = true := by
  obtain ⟨window, same, agrees⟩ := alike.jitter
  have restarted : Alike initialDelayUs old
      { first with
        haveRemoteSsrc := true, remoteSsrc := ssrc, receive := {}, jitter := first.jitter.reset }
      { second with
        haveRemoteSsrc := true, remoteSsrc := ssrc, receive := {},
        jitter := second.jitter.reset } := by
    refine ⟨⟨window, ?_, agrees.reset⟩, rfl, rfl, fun _ => rfl, alike.counted⟩
    exact congrArg JitterBuffer.reset same
  unfold MediaSession.follow
  rw [alike.haveRemoteSsrc]
  cases known : second.haveRemoteSsrc with
  | false => exact ⟨restarted, rfl⟩
  | true =>
    rw [alike.remoteSsrc known]
    split
    · exact ⟨restarted, rfl⟩
    · exact ⟨alike, known⟩

theorem Alike.accept (alike : Alike initialDelayUs old first second) (header : RtpHeader)
    (payload : Bytes) (arrivalUs : Int) :
    Alike initialDelayUs old (first.accept header payload arrivalUs)
      (second.accept header payload arrivalUs) := by
  obtain ⟨window, same, agrees⟩ := alike.jitter
  unfold MediaSession.accept
  dsimp only
  rw [same, alike.receive, alike.counted]
  generalize second.receive.onPacket header.sequence header.timestamp _ = tracked
  obtain ⟨after, put, kept⟩ :=
    @JitterBuffer.put_carry _ old _ _ agrees tracked.1 payload arrivalUs
  unfold JitterBuffer.Carried at put
  rw [put]
  exact ⟨⟨after, rfl, kept⟩, rfl, alike.haveRemoteSsrc, alike.remoteSsrc, rfl⟩

theorem Alike.onPacket (alike : Alike initialDelayUs old first second) (datagram : Datagram)
    (arrivalUs : Int) :
    Alike initialDelayUs old (first.onPacket datagram arrivalUs)
      (second.onPacket datagram arrivalUs) := by
  unfold MediaSession.onPacket
  split
  · exact alike
  · split
    · exact alike
    · exact (alike.follow _).1.accept _ _ _

theorem Alike.conceal (alike : Alike initialDelayUs old first second) :
    Alike initialDelayUs old first.conceal.2 second.conceal.2 := by
  unfold MediaSession.conceal
  split <;> split <;> exact { alike with }

theorem Alike.render (alike : Alike initialDelayUs old first second) (result : PopResult) :
    Alike initialDelayUs old (first.render result).2 (second.render result).2 := by
  cases result with
  | played payload => exact { alike with }
  | missing =>
    refine Alike.conceal { alike with counted := ?_ }
    rw [alike.counted]
  | expanded => exact alike.conceal
  | buffering => exact alike

theorem Alike.playFrame (alike : Alike initialDelayUs old first second) (nowUs : Int) :
    Alike initialDelayUs old (first.playFrame nowUs) (second.playFrame nowUs) := by
  obtain ⟨window, same, agrees⟩ := alike.jitter
  obtain ⟨popped, kept⟩ := @JitterBuffer.pop_carry _ old _ _ agrees nowUs
  unfold JitterBuffer.Carried at popped
  unfold MediaSession.playFrame
  dsimp only
  rw [same, popped]
  have moved : Alike initialDelayUs old
      { first with jitter := (second.jitter.pop nowUs).2.2.carry old window }
      { second with jitter := (second.jitter.pop nowUs).2.2 } :=
    { alike with jitter := ⟨window, rfl, kept⟩ }
  exact { moved.render (second.jitter.pop nowUs).1 with }

theorem Alike.start (alike : Alike initialDelayUs old first second) (ssrc : UInt32)
    (firstSequence : UInt16) (firstTimestamp : UInt32) :
    Alike initialDelayUs old (first.start ssrc firstSequence firstTimestamp)
      (second.start ssrc firstSequence firstTimestamp) := by
  obtain ⟨window, same, agrees⟩ := alike.jitter
  exact ⟨⟨window, congrArg JitterBuffer.reset same, agrees.reset⟩, rfl, rfl, nofun, rfl⟩

theorem Alike.step (alike : Alike initialDelayUs old first second) (op : SessionOp) :
    Alike initialDelayUs old (first.step op) (second.step op) := by
  cases op with
  | start ssrc firstSequence firstTimestamp => exact alike.start ssrc firstSequence firstTimestamp
  | stop => exact { alike with }
  | nextPacket room => exact alike.nextPacket room
  | onPacket datagram arrivalUs => exact alike.onPacket datagram arrivalUs
  | playFrame nowUs => exact alike.playFrame nowUs
  | captured samples => exact { alike with }
  | rendered count => exact { alike with }

theorem Alike.run (alike : Alike initialDelayUs old first second) (ops : List SessionOp) :
    Alike initialDelayUs old (run MediaSession.step first ops)
      (run MediaSession.step second ops) := by
  induction ops generalizing first second with
  | nil => exact alike
  | cons op ops hypothesis => exact hypothesis (alike.step op)

/-! ### The statistics of a call -/

/-- The counters of the statistics. -/
def MediaStats.counters (stats : MediaStats) : List Nat :=
  [stats.packetsSent, stats.packetsReceived, stats.packetsLost, stats.packetsLate,
    stats.framesConcealed, stats.framesExpanded, stats.framesDropped]

/-- Sessions with the same counters and the same target delay. -/
def SameReadings (first second : MediaSession) : Prop :=
  first.stats.counters = second.stats.counters ∧
    first.jitter.targetDelayUs = second.jitter.targetDelayUs

instance (first second : MediaSession) : Decidable (SameReadings first second) :=
  inferInstanceAs (Decidable (_ ∧ _))

theorem Alike.sameReadings_iff (alike : Alike initialDelayUs old first second) :
    SameReadings first second ↔ old.expanded = 0 ∧ old.dropped = 0 := by
  obtain ⟨window, same, agrees⟩ := alike.jitter
  have delay : first.jitter.targetDelayUs = second.jitter.targetDelayUs := by
    rw [same]
    exact agrees.targetDelayUs
  have expanded : first.jitter.expanded = old.expanded + second.jitter.expanded := by
    rw [same]
    rfl
  have dropped : first.jitter.dropped = old.dropped + second.jitter.dropped := by
    rw [same]
    rfl
  unfold SameReadings MediaStats.counters MediaSession.stats
  simp only [delay, alike.counted, alike.receive, expanded, dropped, List.cons.injEq, true_and,
    and_true]
  omega

theorem agrees_history (capture playout : SpscRing Int16) (initialDelayUs : Int)
    (history : List SessionOp) :
    ∃ window, JitterBuffer.Agrees (clampDelay initialDelayUs) window
      (run MediaSession.step (.create capture playout initialDelayUs) history).jitter := by
  let fresh := MediaSession.create capture playout initialDelayUs
  have alike : Alike (clampDelay initialDelayUs) fresh.jitter
      { fresh with jitter := fresh.jitter.carry fresh.jitter fresh.jitter.window } fresh :=
    ⟨⟨_, rfl, rfl, length_replicate, length_replicate, rfl, Or.inr rfl⟩, rfl, rfl,
      nofun, rfl⟩
  obtain ⟨window, -, agrees⟩ := (alike.run history).jitter
  exact ⟨window, agrees⟩

/-- After a start a session reads as a new one would, whatever happens next, just when its jitter
buffer had neither expanded nor dropped a frame before that start. -/
theorem sameReadings_iff_uncounted (capture playout freshCapture freshPlayout : SpscRing Int16)
    (initialDelayUs : Int) (history : List SessionOp) (ssrc : UInt32) (firstSequence : UInt16)
    (firstTimestamp : UInt32) (ops : List SessionOp) :
    let session := run MediaSession.step (.create capture playout initialDelayUs) history
    let fresh := MediaSession.create freshCapture freshPlayout initialDelayUs
    SameReadings (run MediaSession.step (session.start ssrc firstSequence firstTimestamp) ops)
        (run MediaSession.step (fresh.start ssrc firstSequence firstTimestamp) ops) ↔
      session.jitter.expanded = 0 ∧ session.jitter.dropped = 0 := by
  intro session fresh
  obtain ⟨window, agrees⟩ := agrees_history capture playout initialDelayUs history
  have started : Alike (clampDelay initialDelayUs) session.jitter
      (session.start ssrc firstSequence firstTimestamp)
      (fresh.start ssrc firstSequence firstTimestamp) := by
    refine ⟨⟨session.jitter.window, ?_, ?_⟩, rfl, rfl, nofun, rfl⟩
    · show session.jitter.reset = (JitterBuffer.create initialDelayUs).reset.carry _ _
      unfold JitterBuffer.reset JitterBuffer.carry
      rw [agrees.initial]
      rfl
    · exact ⟨rfl, agrees.size, length_replicate, rfl, Or.inl ⟨rfl, Nat.succ_pos _⟩⟩
  exact (started.run ops).sameReadings_iff

/-- A packet with one byte of audio. -/
def audioPacket (sequence : UInt8) : Datagram :=
  ⟨[0x80, 8, 0, sequence, 0, 0, 0, 0, 0, 0, 0, 1, 0xd5], Nat.lt_of_sub_eq_succ rfl⟩

/-- A call whose second packet takes 30 ms longer than the first, so that the frame after the
first one is repeated. -/
def slowCall : List SessionOp :=
  [.start 1 0 0, .onPacket (audioPacket 0) 0, .playFrame 10000, .onPacket (audioPacket 1) 50000,
    .playFrame 50000, .stop]

/-- The next call starts with a frame expanded before anything has been played. -/
theorem slowCall_not_sameReadings :
    ¬ SameReadings
      ((run MediaSession.step (.create (.create (fun _ => 0) 3) (.create (fun _ => 0) 3) 10000)
        slowCall).start 2 0 0)
      ((MediaSession.create (.create (fun _ => 0) 3) (.create (fun _ => 0) 3) 10000).start
        2 0 0) := by
  decide +kernel

end KetPhone.Media
