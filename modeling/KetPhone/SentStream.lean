/-
This file proves what a media session sends after a start: each packet with the
headers of its place in the stream, and in the payloads the samples that the capture
ring accepted, each once and in order.

A call on the ring is a run of its machine that nothing interrupts, so that the ring
is a queue for the session: a push appends what fits, a pop takes from the front, and
the start empties it. The packets then cut the samples into chunks, of which one is
short exactly when the queue was.
-/

import KetPhone.MediaSession

namespace KetPhone.Media

open List

/-! ### The ring as a queue -/

/-- No call is running on the ring, and it holds these values. -/
def SpscRing.Queues {α : Type} (bits : Fin 64) (ring : SpscRing α) (held : List α) : Prop :=
  ∃ log, RingMachine.Holds bits { ring, log } held

namespace SpscRing.Queues

variable {α : Type} {bits : Fin 64} {ring : SpscRing α} {held : List α}

theorem held_eq (queues : ring.Queues bits held) : ring.held = held := by
  obtain ⟨log, holds⟩ := queues
  exact holds.held_eq

theorem size_eq (queues : ring.Queues bits held) : ring.size.toNat = held.length := by
  rw [← queues.held_eq]
  unfold SpscRing.held SpscRing.between SpscRing.size
  rw [length_map, length_range]

theorem call (queues : ring.Queues bits held) (after : SpscRing α) (outcome : Outcome α)
    (ran : ∀ log, ∃ turns, run RingMachine.step { ring, log } turns =
      { ring := after, log := log ++ [outcome] }) :
    ∃ rest, after.Queues bits rest ∧ held ++ accepted [outcome] = taken [outcome] ++ rest := by
  obtain ⟨log, holds⟩ := queues
  obtain ⟨turns, ran⟩ := ran log
  obtain ⟨rest, called⟩ : ∃ rest, (run RingMachine.step { ring, log } turns).Holds bits rest :=
    loop_keeps (fun machine => ∃ held, RingMachine.Holds bits machine held) turns
      (fun _ turn _ ⟨_, holds⟩ => holds.step turn) ⟨held, holds⟩
  rw [ran] at called
  refine ⟨rest, ⟨_, called⟩, ?_⟩
  have fifo := called.fifo
  dsimp only at fifo
  rw [RingMachine.accepted_concat, RingMachine.taken_concat, holds.fifo, append_assoc,
    append_assoc] at fifo
  exact append_cancel_left fifo

theorem push (queues : ring.Queues bits held) (values : List α) :
    (ring.push values).2.Queues bits (held ++ (ring.push values).1) := by
  obtain ⟨rest, after, split⟩ :=
    queues.call (ring.push values).2 (.pushed (ring.push values).1) fun log =>
    ⟨_, RingMachine.run_push { ring, log } values rfl⟩
  rw [show accepted [Outcome.pushed (ring.push values).1] = (ring.push values).1 from append_nil _]
    at split
  rwa [split]

theorem pop (queues : ring.Queues bits held) (count : Nat) :
    (ring.pop count).1.length = min count held.length ∧
      ∃ rest, (ring.pop count).2.Queues bits rest ∧ held = (ring.pop count).1 ++ rest := by
  refine ⟨?_, ?_⟩
  · rw [← queues.size_eq]
    unfold SpscRing.pop
    rw [length_map, length_range]
    rfl
  · obtain ⟨rest, after, split⟩ :=
      queues.call (ring.pop count).2 (.popped (ring.pop count).1) fun log =>
      ⟨_, RingMachine.run_pop { ring, log } count rfl⟩
    rw [show taken [Outcome.popped (ring.pop count).1] =
      (ring.pop count).1 from append_nil _] at split
    exact ⟨rest, after, (append_nil held).symm.trans split⟩

theorem discard (queues : ring.Queues bits held) : ring.discard.Queues bits [] := by
  obtain ⟨rest, after, split⟩ := queues.call ring.discard (.discarded ring.held) fun log =>
    ⟨_, RingMachine.run_discard { ring, log } rfl⟩
  rw [show taken [Outcome.discarded ring.held] = ring.held from append_nil _,
    queues.held_eq] at split
  obtain rfl : rest = [] := (append_cancel_left split).symm
  exact after

end SpscRing.Queues

/-! ### The stream -/

/-- A packet, with as many samples as could be read when it was made. -/
structure Sent where
  packet : Bytes
  available : Nat

/-- The packets that are sent while a session goes on. -/
def sentBy : MediaSession → List SessionOp → List Sent
  | _, [] => []
  | session, op :: ops =>
    match op with
    | .nextPacket room =>
      ⟨(session.nextPacket room).1, session.capture.size.toNat⟩ :: sentBy (session.step op) ops
    | _ => sentBy (session.step op) ops

/-- The samples that the capture ring accepts while a session goes on. -/
def acceptedBy : MediaSession → List SessionOp → List Int16
  | _, [] => []
  | session, op :: ops =>
    match op with
    | .captured samples => (session.capture.push samples).1 ++ acceptedBy (session.step op) ops
    | _ => acceptedBy (session.step op) ops

/-- The session is not started again, and each packet has enough room. -/
def SessionOp.Continues : SessionOp → Prop
  | .start .. => False
  | .nextPacket room => 172 ≤ room
  | _ => True

instance (op : SessionOp) : Decidable op.Continues := by
  cases op <;> unfold SessionOp.Continues <;> infer_instance

/-- The header of the packet with this number. -/
def headerAt (ssrc : UInt32) (firstSequence : UInt16) (firstTimestamp : UInt32) (number : Nat) :
    RtpHeader :=
  { payloadType := 8
    marker := number == 0
    sequence := firstSequence + UInt16.ofNat number
    timestamp := firstTimestamp + UInt32.ofNat (160 * number)
    ssrc }

/-- A packet with this header, and with these samples in its payload before silence. -/
structure Carries (header : RtpHeader) (samples : List Int16) (packet : Bytes) : Prop where
  fits : packet.length < 2 ^ 64
  parsed : ∃ parsed, parseRtp ⟨packet, fits⟩ = some parsed ∧ parsed.header = header ∧
    parsed.payload.count = 160 ∧ parsed.payload.read ⟨packet, fits⟩ =
      some ((samples ++ List.replicate (160 - samples.length) 0).map alawEncode)

namespace MediaSession

theorem onPacket_keeps (datagram : Datagram) (arrivalUs : Int) (session : MediaSession) :
    (session.onPacket datagram arrivalUs).capture = session.capture ∧
      (session.onPacket datagram arrivalUs).sendHeader = session.sendHeader := by
  unfold onPacket
  split
  · exact ⟨rfl, rfl⟩
  · split
    · exact ⟨rfl, rfl⟩
    · unfold follow
      split <;> exact ⟨rfl, rfl⟩

theorem conceal_keeps (session : MediaSession) :
    session.conceal.2.capture = session.capture ∧
      session.conceal.2.sendHeader = session.sendHeader := by
  unfold conceal
  split <;> exact ⟨rfl, rfl⟩

theorem playFrame_keeps (nowUs : Int) (session : MediaSession) :
    (session.playFrame nowUs).capture = session.capture ∧
      (session.playFrame nowUs).sendHeader = session.sendHeader := by
  unfold playFrame
  dsimp only
  generalize (session.jitter.pop nowUs).1 = result
  cases result with
  | played payload => exact ⟨rfl, rfl⟩
  | missing => exact ⟨(conceal_keeps _).1, (conceal_keeps _).2⟩
  | expanded => exact ⟨(conceal_keeps _).1, (conceal_keeps _).2⟩
  | buffering => exact ⟨rfl, rfl⟩

end MediaSession

section Stream

variable {bits : Fin 64} {ssrc : UInt32} {firstSequence : UInt16} {firstTimestamp : UInt32}

theorem frameOf_eq {samples : List Int16} (few : samples.length ≤ 160) :
    frameOf samples = samples ++ List.replicate (160 - samples.length) 0 := by
  unfold frameOf
  rw [take_of_length_le (show samples.length ≤ kFrameSamples from few)]
  rfl

theorem carries_writeRtp {room : Nat} {header : RtpHeader} (enough : 172 ≤ room)
    (audio : header.payloadType = 8) {samples : List Int16} (few : samples.length ≤ 160) :
    Carries header samples (writeRtp room header ((frameOf samples).map alawEncode)) := by
  have length : ((frameOf samples).map alawEncode).length = 160 := by
    rw [length_map, length_frameOf]
    rfl
  rw [frameOf_eq few] at length ⊢
  generalize same : (samples ++ List.replicate (160 - samples.length) 0).map alawEncode = payload
    at length ⊢
  have roomy : 12 + payload.length ≤ room := by omega
  have size : (writeRtp room header payload).length = 172 := by
    rw [writeRtp_eq roomy, length_append, length]
    rfl
  have small : header.payloadType < 128 := by
    rw [audio]
    decide
  have apart : ¬ (200 ≤ header.second ∧ header.second ≤ 204) := by
    unfold RtpHeader.second
    rw [audio]
    cases header.marker <;> decide
  have fits : (writeRtp room header payload).length < 2 ^ 64 := by
    rw [size]
    decide
  refine ⟨fits, _, parseRtp_writeRtp roomy small apart fits, rfl, ?_, ?_⟩
  · rw [length]
    rfl
  · unfold Subspan.read
    dsimp only
    rw [length, size, if_pos (by decide), writeRtp_eq roomy, same]
    exact congrArg some (take_of_length_le length.le)

theorem headerAt_succ (number : Nat) :
    { headerAt ssrc firstSequence firstTimestamp number with
      marker := false
      sequence := (headerAt ssrc firstSequence firstTimestamp number).sequence + 1
      timestamp := (headerAt ssrc firstSequence firstTimestamp number).timestamp +
        UInt32.ofNat kFrameSamples } =
      headerAt ssrc firstSequence firstTimestamp (number + 1) := by
  have sequence : firstSequence + UInt16.ofNat number + 1 =
      firstSequence + UInt16.ofNat (number + 1) := by
    rw [UInt16.ofNat_add, UInt16.add_assoc]
    rfl
  have timestamp : firstTimestamp + UInt32.ofNat (160 * number) + UInt32.ofNat 160 =
      firstTimestamp + UInt32.ofNat (160 * (number + 1)) := by
    rw [Nat.mul_succ, UInt32.ofNat_add, UInt32.add_assoc]
  unfold headerAt
  dsimp only
  rw [sequence, ← timestamp]
  rfl

/-- From a session whose next packet has this number and whose ring holds these samples. -/
theorem stream_from {session : MediaSession} {held : List Int16} {number : Nat}
    (queues : session.capture.Queues bits held)
    (header : session.sendHeader = headerAt ssrc firstSequence firstTimestamp number)
    {ops : List SessionOp} (continues : ∀ op ∈ ops, op.Continues) :
    ∃ chunks : List (List Int16), chunks.length = (sentBy session ops).length ∧
      held ++ acceptedBy session ops =
        chunks.flatten ++ (run MediaSession.step session ops).capture.held ∧
      ∀ place sent chunk, (sentBy session ops)[place]? = some sent → chunks[place]? = some chunk →
        chunk.length = min 160 sent.available ∧
          Carries (headerAt ssrc firstSequence firstTimestamp (number + place)) chunk
            sent.packet := by
  induction ops generalizing session held number with
  | nil =>
    refine ⟨[], rfl, ?_, nofun⟩
    rw [run_nil, queues.held_eq]
    exact append_nil held
  | cons op ops hypothesis =>
    have later : ∀ other ∈ ops, other.Continues := fun other member =>
      continues other (mem_cons_of_mem _ member)
    -- What does not touch the ring and the header leaves the stream as it is.
    have other : ∀ after, session.step op = after → after.capture = session.capture →
        after.sendHeader = session.sendHeader → _ := fun after stepped capture kept =>
      @hypothesis after held number (capture ▸ queues) (kept.trans header) later
    cases op with
    | start ssrc firstSequence firstTimestamp =>
      exact (continues _ mem_cons_self).elim
    | nextPacket room =>
      have enough : 172 ≤ room := continues _ mem_cons_self
      obtain ⟨length, rest, popped, split⟩ := queues.pop 160
      have carries := carries_writeRtp enough (show session.sendHeader.payloadType = 8 by
        rw [header]; rfl) (length.le.trans (Nat.min_le_left _ _))
      have packet : session.nextPacket room =
          (writeRtp room session.sendHeader
              ((frameOf (session.capture.pop 160).1).map alawEncode),
            { session with
              capture := (session.capture.pop 160).2
              sendHeader := headerAt ssrc firstSequence firstTimestamp (number + 1)
              counted :=
                { session.counted with packetsSent := session.counted.packetsSent + 1 } }) := by
        unfold MediaSession.nextPacket
        dsimp only
        rw [isEmpty_writeRtp, length_map, length_frameOf, if_neg, ← headerAt_succ, ← header]
        · rfl
        · rw [decide_eq_true_eq]
          exact Nat.not_lt.mpr enough
      obtain ⟨chunks, count, flat, each⟩ :=
        @hypothesis (session.nextPacket room).2 rest (number + 1)
        (by rw [packet]; exact popped) (by rw [packet]) later
      refine ⟨(session.capture.pop 160).1 :: chunks, congrArg (· + 1) count, ?_, ?_⟩
      · rw [split, append_assoc, flatten_cons, append_assoc]
        exact congrArg ((session.capture.pop 160).1 ++ ·) flat
      · intro place sent chunk here there
        cases place with
        | zero =>
          cases here
          cases there
          rw [queues.size_eq, packet]
          refine ⟨length, ?_⟩
          rw [Nat.add_zero, ← header]
          exact carries
        | succ place =>
          rw [Nat.add_succ, ← Nat.succ_add]
          exact each place sent chunk here there
    | captured samples =>
      obtain ⟨chunks, count, flat, each⟩ := @hypothesis
        { session with capture := (session.capture.push samples).2 }
        (held ++ (session.capture.push samples).1) number (queues.push samples) header later
      refine ⟨chunks, count, ?_, each⟩
      rw [append_assoc] at flat
      exact flat
    | stop => exact other _ rfl rfl rfl
    | onPacket datagram arrivalUs =>
      obtain ⟨capture, kept⟩ := session.onPacket_keeps datagram arrivalUs
      exact other _ rfl capture kept
    | playFrame nowUs =>
      obtain ⟨capture, kept⟩ := session.playFrame_keeps nowUs
      exact other _ rfl capture kept
    | rendered count => exact other _ rfl rfl rfl

/-- A ring in which nothing is running, after any history of a session. -/
theorem queues_run {session : MediaSession} {held : List Int16}
    (queues : session.capture.Queues bits held) (ops : List SessionOp) :
    ∃ after, (run MediaSession.step session ops).capture.Queues bits after := by
  refine loop_keeps (fun session : MediaSession => ∃ held, session.capture.Queues bits held) ops ?_
    ⟨held, queues⟩
  rintro session op - ⟨held, queues⟩
  cases op with
  | start ssrc firstSequence firstTimestamp => exact ⟨[], queues.discard⟩
  | stop => exact ⟨held, queues⟩
  | nextPacket room =>
    obtain ⟨-, rest, popped, -⟩ := queues.pop 160
    refine ⟨rest, ?_⟩
    show (session.nextPacket room).2.capture.Queues bits rest
    unfold MediaSession.nextPacket
    dsimp only
    split <;> exact popped
  | onPacket datagram arrivalUs =>
    exact ⟨held, (session.onPacket_keeps datagram arrivalUs).1 ▸ queues⟩
  | playFrame nowUs => exact ⟨held, (session.playFrame_keeps nowUs).1 ▸ queues⟩
  | captured samples => exact ⟨_, queues.push samples⟩
  | rendered count => exact ⟨held, queues⟩

end Stream

/-- The packets have the headers of their places, and their payloads are the samples that the ring
accepted, in order and none lost or repeated, but for those that it still holds. A packet is filled
with silence exactly when fewer than 160 samples could be read. -/
def SendsExactly (ssrc : UInt32) (firstSequence : UInt16) (firstTimestamp : UInt32)
    (session : MediaSession) (ops : List SessionOp) : Prop :=
  ∃ chunks : List (List Int16), chunks.length = (sentBy session ops).length ∧
    acceptedBy session ops = chunks.flatten ++ (run MediaSession.step session ops).capture.held ∧
    ∀ place sent chunk, (sentBy session ops)[place]? = some sent → chunks[place]? = some chunk →
      chunk.length = min 160 sent.available ∧
      ∃ header, Carries header chunk sent.packet ∧ header.payloadType = 8 ∧
        (header.marker = true ↔ place = 0) ∧
        header.sequence.toNat = (firstSequence.toNat + place) % 2 ^ 16 ∧
        header.timestamp.toNat = (firstTimestamp.toNat + 160 * place) % 2 ^ 32 ∧
        header.ssrc = ssrc

/-- After a start the stream is exact, whatever happened before it. -/
theorem sent_stream_exact (bits : Fin 64) (slots : UInt64 → Int16) (playout : SpscRing Int16)
    (initialDelayUs : Int) (history : List SessionOp) (ssrc : UInt32) (firstSequence : UInt16)
    (firstTimestamp : UInt32) (ops : List SessionOp) (continues : ∀ op ∈ ops, op.Continues) :
    let fresh := MediaSession.create (RingMachine.start bits slots).ring playout initialDelayUs
    SendsExactly ssrc firstSequence firstTimestamp
      ((run MediaSession.step fresh history).start ssrc firstSequence firstTimestamp) ops := by
  intro fresh
  obtain ⟨held, queues⟩ :=
    @queues_run bits fresh [] ⟨[], RingMachine.start_holds bits slots⟩ history
  obtain ⟨chunks, count, flat, each⟩ := @stream_from bits ssrc firstSequence firstTimestamp
    ((run MediaSession.step fresh history).start ssrc firstSequence firstTimestamp) [] 0
    queues.discard (by simp [MediaSession.start, headerAt, Sip.kPayloadPcma]) ops continues
  refine ⟨chunks, count, flat, fun place sent chunk here there => ?_⟩
  obtain ⟨length, carries⟩ := each place sent chunk here there
  rw [Nat.zero_add] at carries
  refine ⟨length, _, carries, rfl, beq_iff_eq, ?_, ?_, rfl⟩
  · show (firstSequence + UInt16.ofNat place).toNat = _
    rw [UInt16.toNat_add, UInt16.toNat_ofNat']
    exact Nat.add_mod_mod _ _ _
  · show (firstTimestamp + UInt32.ofNat (160 * place)).toNat = _
    rw [UInt32.toNat_add, UInt32.toNat_ofNat']
    exact Nat.add_mod_mod _ _ _

/-- 200 samples are captured, and two packets are sent. -/
def shortTalk : List SessionOp :=
  [.captured (List.replicate 200 5), .nextPacket 172, .nextPacket 172]

theorem shortTalk_sent_stream_exact :
    (∀ op ∈ shortTalk, op.Continues) ∧
      SendsExactly 1 65535 4294967290
        ((run MediaSession.step (.create (RingMachine.start 8 fun _ => 0).ring
          (RingMachine.start 8 fun _ => 0).ring 60000) [.captured [7]]).start 1 65535 4294967290)
        shortTalk := by
  have continues : ∀ op ∈ shortTalk, op.Continues := by decide
  exact ⟨continues, sent_stream_exact 8 (fun _ => 0) (RingMachine.start 8 fun _ => 0).ring 60000
    [.captured [7]] 1 65535 4294967290 shortTalk continues⟩

end KetPhone.Media
