/-
This file models the end of a pass of the loop in `core/engine.cpp`, which sends and
plays the frames that are due. The frames keep to a grid of 20 ms from the start of
media on. After a stall of more than ten frames the grid begins anew, so a pass never
makes more than eleven.

What the user agent asks of its host, datagrams on the RTP socket and the audio thread
come between the passes, in any order. Whatever they do, since media started the
session has made one packet and played one frame for each frame on the clock, at that
frame's time, and every packet went to the socket, the next one of its stream each time.
-/

import KetPhone.Keystream

namespace KetPhone.Core

open Media List

def kFrame : Int := milliseconds 20

structure FrameClock (Session : Type) where
  sender : Sender Session
  nextFrame : Int := 0
  /-- When media last started, and the session at that moment. -/
  began : Int := 0
  started : MediaSession := sender.session
  /-- The frames that were made since then. -/
  frames : List Int := []
  /-- What was sent for each of them; nothing where libsrtp failed. -/
  sent : List (Option Bytes) := []

inductive FrameTurn where
  | openMedia
  | startMedia (remote : RemoteMedia) (now : Int)
  | closeMedia
  | receive (datagram : Bytes) (arrivalUs : Int)
  | captured (samples : List Int16)
  | rendered (count : Nat)
  | pass (now : Int)

variable {Session : Type} {platform : Platform Session}

namespace FrameClock

/-- One round of the loop over the frames that are due. -/
def make (clock : FrameClock Session) : FrameClock Session :=
  let (datagram, sender) := clock.sender.emit (clock.nextFrame.tdiv 1000)
  { clock with
    sender
    nextFrame := clock.nextFrame + kFrame
    frames := clock.frames ++ [clock.nextFrame]
    sent := clock.sent ++ [datagram] }

def catchUp (now : Int) (clock : FrameClock Session) : FrameClock Session :=
  if _ : clock.nextFrame ≤ now then catchUp now clock.make else clock
termination_by (now + 1 - clock.nextFrame).toNat
decreasing_by
  unfold make kFrame milliseconds
  dsimp only
  omega

def pass (now : Int) (clock : FrameClock Session) : FrameClock Session :=
  if clock.sender.session.active && clock.sender.media.rtp.isSome && clock.nextFrame ≤ now then
    catchUp now
      (if now - clock.nextFrame > 10 * kFrame then { clock with nextFrame := now } else clock)
  else clock

/-- The clock starts with the session. -/
def startMedia (remote : RemoteMedia) (now : Int) (clock : FrameClock Session) :
    FrameClock Session :=
  let sender := (clock.sender.startMedia remote).2
  if sender.session.active && !clock.sender.session.active then
    { sender, nextFrame := now, began := now }
  else { clock with sender }

def turn (clock : FrameClock Session) : FrameTurn → FrameClock Session
  | .openMedia => { clock with sender := (UserAgentHost.openMedia clock.sender).2 }
  | .startMedia remote now => clock.startMedia remote now
  | .closeMedia => { clock with sender := UserAgentHost.closeMedia clock.sender }
  | .receive datagram arrivalUs => { clock with sender := clock.sender.receive datagram arrivalUs }
  | .captured samples =>
    { clock with
      sender := { clock.sender with session := clock.sender.session.step (.captured samples) } }
  | .rendered count =>
    { clock with
      sender := { clock.sender with session := clock.sender.session.step (.rendered count) } }
  | .pass now => clock.pass now

/-! ### The times -/

/-- So many frames, 20 ms apart. -/
def grid (next : Int) : Nat → List Int
  | 0 => []
  | count + 1 => next :: grid (next + kFrame) count

theorem catchUp_eq (now : Int) (clock : FrameClock Session) : ∃ count : Nat,
    clock.catchUp now = make^[count] clock ∧ now < clock.nextFrame + count * kFrame ∧
      (count = 0 ∨ clock.nextFrame + count * kFrame ≤ now + kFrame) := by
  fun_induction catchUp now clock with
  | case1 clock due hypothesis =>
    obtain ⟨count, equal, past, bound⟩ := hypothesis
    have moved : clock.make.nextFrame = clock.nextFrame + kFrame := rfl
    refine ⟨count + 1, equal, ?_, Or.inr ?_⟩
    all_goals
      simp only [moved, kFrame, milliseconds] at *
      omega
  | case2 clock ahead => exact ⟨0, rfl, by omega, Or.inl rfl⟩

/-- A pass is so many rounds from this frame on. -/
structure Rounds (clock : FrameClock Session) (now next : Int) (count : Nat) : Prop where
  equal : clock.pass now = make^[count] { clock with nextFrame := next }
  ahead : clock.nextFrame ≤ next
  whole : now - clock.nextFrame ≤ 10 * kFrame → next = clock.nextFrame
  due : count = 0 ∨ now - 10 * kFrame ≤ next ∧ next + count * kFrame ≤ now + kFrame
  media : count = 0 ∨ clock.sender.session.active = true ∧ clock.sender.media.rtp.isSome = true
  past : clock.sender.session.active = true → clock.sender.media.rtp.isSome = true →
    now < next + count * kFrame

theorem pass_rounds (clock : FrameClock Session) (now : Int) :
    ∃ next count, clock.Rounds now next count := by
  by_cases due : (clock.sender.session.active && clock.sender.media.rtp.isSome &&
    clock.nextFrame ≤ now) = true
  · have passed : clock.pass now = catchUp now
        (if now - clock.nextFrame > 10 * kFrame then { clock with nextFrame := now } else clock) :=
      if_pos due
    rw [Bool.and_eq_true, Bool.and_eq_true, decide_eq_true_eq] at due
    obtain ⟨media, reached⟩ := due
    by_cases stalled : now - clock.nextFrame > 10 * kFrame
    · rw [if_pos stalled] at passed
      obtain ⟨count, equal, past, bound⟩ := catchUp_eq now { clock with nextFrame := now }
      refine ⟨now, count, passed.trans equal, reached, fun soon => absurd stalled (by omega),
        bound.imp_right fun bound => ⟨?_, bound⟩, Or.inr media, fun _ _ => past⟩
      unfold kFrame milliseconds
      omega
    · rw [if_neg stalled] at passed
      obtain ⟨count, equal, past, bound⟩ := catchUp_eq now clock
      refine ⟨clock.nextFrame, count, passed.trans equal, Int.le_refl _, fun _ => rfl,
        bound.imp_right fun bound => ⟨?_, bound⟩, Or.inr media, fun _ _ => past⟩
      omega
  · refine ⟨clock.nextFrame, 0, if_neg due, Int.le_refl _, fun _ => rfl, Or.inl rfl, Or.inl rfl,
      fun active opened => ?_⟩
    simpa [active, opened] using due

/-- A pass makes at most eleven frames, on one grid, none of them early or more than 200 ms late;
unless it is later than that itself, it leaves none out. No frame stays due while media is on. -/
def Paced (clock : FrameClock Session) (now : Int) : Prop :=
  ∃ (next : Int) (count : Nat), (clock.pass now).frames = clock.frames ++ grid next count ∧
    (clock.pass now).nextFrame = next + count * kFrame ∧ clock.nextFrame ≤ next ∧ count ≤ 11 ∧
    (∀ frame ∈ grid next count, now - 10 * kFrame ≤ frame ∧ frame ≤ now) ∧
    (now - clock.nextFrame ≤ 10 * kFrame → next = clock.nextFrame) ∧
    (clock.sender.session.active → clock.sender.media.rtp.isSome →
      now < (clock.pass now).nextFrame)

/-- The frames since media started are at least 20 ms apart, the next one too. -/
structure Spaced (clock : FrameClock Session) : Prop where
  made : clock.frames.Pairwise fun early late => early + kFrame ≤ late
  since : ∀ frame ∈ clock.frames, clock.began ≤ frame
  next : ∀ frame ∈ clock.frames, frame + kFrame ≤ clock.nextFrame
  ahead : clock.began ≤ clock.nextFrame

variable {clock : FrameClock Session}

theorem Spaced.later (spaced : clock.Spaced) {next : Int} (ahead : clock.nextFrame ≤ next) :
    { clock with nextFrame := next }.Spaced where
  made := spaced.made
  since := spaced.since
  next frame member := (spaced.next frame member).trans ahead
  ahead := spaced.ahead.trans ahead

theorem Spaced.make (spaced : clock.Spaced) : clock.make.Spaced := by
  have forward : clock.nextFrame ≤ clock.nextFrame + kFrame := by
    unfold kFrame milliseconds
    omega
  constructor
  · refine pairwise_append.mpr
      ⟨spaced.made, pairwise_singleton _ _, fun frame member late new => ?_⟩
    cases mem_singleton.mp new
    exact spaced.next frame member
  · intro frame member
    rcases mem_append.mp member with old | new
    · exact spaced.since frame old
    · cases mem_singleton.mp new
      exact spaced.ahead
  · intro frame member
    rcases mem_append.mp member with old | new
    · exact (spaced.next frame old).trans forward
    · cases mem_singleton.mp new
      exact Int.le_refl _
  · exact spaced.ahead.trans forward

theorem Spaced.turn (spaced : clock.Spaced) (turn : FrameTurn) : (clock.turn turn).Spaced := by
  cases turn with
  | startMedia remote now =>
    unfold FrameClock.turn FrameClock.startMedia
    dsimp only
    split
    · exact ⟨.nil, nofun, nofun, Int.le_refl _⟩
    · exact ⟨spaced.made, spaced.since, spaced.next, spaced.ahead⟩
  | pass now =>
    obtain ⟨next, count, rounds⟩ := clock.pass_rounds now
    show (clock.pass now).Spaced
    rw [rounds.equal]
    exact Function.Iterate.rec Spaced (spaced.later rounds.ahead)
      (fun _ spaced => spaced.make) count
  | _ => exact ⟨spaced.made, spaced.since, spaced.next, spaced.ahead⟩

/-! ### What is sent and played -/

/-- A packet leaves as it is or as libsrtp protects it, unless that fails. -/
def Carries (platform : Platform Session) (packet : Bytes) (datagram : Option Bytes) : Prop :=
  datagram = some packet ∨ ∃ call session,
    datagram = (platform.srtpProtect call session packet).1.filter fun made => !made.isEmpty

/-- The calls that start a session, make a packet and play a frame. -/
def framed : SessionOp → Bool
  | .start _ _ _ => true
  | .nextPacket _ => true
  | .playFrame _ => true
  | _ => false

/-- What the loop does to the session for one frame. -/
def frameCalls (frame : Int) : List SessionOp :=
  [.nextPacket kMaxPacketSize, .playFrame (frame.tdiv 1000)]

theorem run_frameCalls (frame : Int) (session : MediaSession) :
    run MediaSession.step session (frameCalls frame) =
      (session.nextPacket kMaxPacketSize).2.playFrame (frame.tdiv 1000) := by
  simp only [frameCalls, run_cons, run_nil, MediaSession.step]

/-- Since media started the session was called for the frames on the clock and for no other, each
frame's packet followed the one before it, and the packets were sent. -/
structure Streamed (platform : Platform Session) (clock : FrameClock Session) : Prop where
  called : ∃ ops, clock.sender.session = run MediaSession.step clock.started ops ∧
    ops.filter framed = clock.frames.flatMap frameCalls
  counted : clock.sender.session.counted.packetsSent = clock.frames.length
  sent : ∃ packets, packets.length = clock.frames.length ∧ RunsOn clock.sender.session packets ∧
    Forall₂ (Carries platform) packets clock.sent

/-- The engine knows whether its session is active, and the session sends audio. -/
structure Settled (platform : Platform Session) (clock : FrameClock Session) : Prop
    extends Streamed platform clock where
  platform : clock.sender.media.platform = platform
  active : clock.sender.media.active = clock.sender.session.active
  audio : clock.sender.session.active = true →
    clock.sender.session.sendHeader.payloadType = Sip.kPayloadPcma

theorem Engine.transmit_same (packet : Bytes) (engine : Engine Session) :
    (engine.transmit packet).2.platform = engine.platform ∧
      (engine.transmit packet).2.rtp = engine.rtp := by
  unfold Engine.transmit
  split
  · split <;> exact ⟨rfl, rfl⟩
  · exact ⟨rfl, rfl⟩

theorem Engine.transmit_carries {packet : Bytes} {engine : Engine Session}
    (active : engine.active = true) (opened : engine.rtp.isSome = true) (nonempty : packet ≠ []) :
    Carries engine.platform packet (engine.transmit packet).1 := by
  have ready : (engine.active && engine.rtp.isSome && !packet.isEmpty) = true := by
    simp [active, opened, nonempty]
  unfold Engine.transmit
  rw [if_pos ready]
  split
  · exact Or.inl rfl
  next stream _ =>
    refine Or.inr ⟨engine.calls, stream.session, ?_⟩
    unfold SrtpStream.protect
    dsimp only
    cases (engine.platform.srtpProtect engine.calls stream.session packet).1 with
    | none => rfl
    | some made => cases made <;> rfl

theorem Engine.startMedia_platform (remote : RemoteMedia) (engine : Engine Session) :
    (engine.startMedia remote).2.platform = engine.platform := by
  have connected (family : AddressFamily) (engine : Engine Session) :
      (engine.connect family remote).platform = engine.platform := by
    unfold Engine.connect
    split <;> rfl
  have used (keys : MediaKeys) : (engine.useKeys keys).2.platform = engine.platform := by
    unfold Engine.useKeys
    split
    · rfl
    · split
      next failed outcome => rcases Engine.streamFor_engine outcome with rfl | rfl <;> rfl
      next outbound sending outcome =>
        have sent : sending.platform = engine.platform := by
          rcases Engine.streamFor_engine outcome with rfl | rfl <;> rfl
        dsimp only
        split
        next failed further =>
          rcases Engine.streamFor_engine further with rfl | rfl <;> exact sent
        next inbound receiving further =>
          rcases Engine.streamFor_engine further with rfl | rfl <;> exact sent
  unfold Engine.startMedia
  split
  · rfl
  · split
    · dsimp only
      split
      · exact used _
      · exact (connected _ _).trans (used _)
    · exact connected _ _

/-- A round with media on. -/
theorem Settled.make (settled : clock.Settled platform)
    (media : clock.sender.session.active = true ∧ clock.sender.media.rtp.isSome = true) :
    clock.make.Settled platform ∧
      clock.make.sender.session.active = true ∧ clock.make.sender.media.rtp.isSome = true := by
  have next := nextPacket_spec (settled.audio media.1)
  have running := settled.active.trans media.1
  unfold FrameClock.make Sender.emit
  rw [if_pos (Bool.and_eq_true_iff.mpr media)]
  dsimp only
  have carries := Engine.transmit_carries running media.2 next.nonempty
  have out := clock.sender.media.transmit_out (clock.sender.session.nextPacket kMaxPacketSize).1
  have same := Engine.transmit_same (clock.sender.session.nextPacket kMaxPacketSize).1
    clock.sender.media
  have played := SameSending.playFrame (clock.nextFrame.tdiv 1000)
    (clock.sender.session.nextPacket kMaxPacketSize).2
  have still := played.active.trans (next.active.trans media.1)
  refine ⟨⟨⟨?_, ?_, ?_⟩, ?_, ?_, fun _ => ?_⟩, still, ?_⟩
  · obtain ⟨ops, session, calls⟩ := settled.called
    refine ⟨ops ++ frameCalls clock.nextFrame, ?_, ?_⟩
    · rw [run_append, ← session, run_frameCalls]
    · rw [filter_append, calls, flatMap_append]
      rfl
  · rw [played.counted, next.counted, settled.counted, length_append]
    rfl
  · obtain ⟨packets, length, runsOn, carried⟩ := settled.sent
    refine ⟨packets ++ [_], ?_, (runsOn.nextPacket next).same played,
      rel_append carried (.cons (settled.platform ▸ carries) .nil)⟩
    rw [length_append, length_append, length]
    rfl
  · exact same.1.trans settled.platform
  · rw [out.2, running, still]
  · rw [played.sendHeader, next.audio, settled.audio media.1]
  · rw [same.2]
    exact media.2

/-- Nothing was sent or played. -/
theorem Settled.rest (settled : clock.Settled platform) {sender : Sender Session}
    (ops : List SessionOp) (unframed : ops.filter framed = [])
    (session : sender.session = run MediaSession.step clock.sender.session ops)
    (header : sender.session.sendHeader = clock.sender.session.sendHeader)
    (counted : sender.session.counted.packetsSent = clock.sender.session.counted.packetsSent)
    (stays : sender.session.active = true → clock.sender.session.active = true)
    (media : sender.media.platform = clock.sender.media.platform)
    (active : sender.media.active = sender.session.active) :
    { clock with sender }.Settled platform := by
  refine ⟨⟨?_, counted.trans settled.counted, ?_⟩, media.trans settled.platform, active,
    fun on => header ▸ settled.audio (stays on)⟩
  · obtain ⟨before, same, calls⟩ := settled.called
    refine ⟨before ++ ops, ?_, ?_⟩
    · rw [run_append, ← same]
      exact session
    · rw [filter_append, calls, unframed, append_nil]
  · obtain ⟨packets, length, runsOn, carried⟩ := settled.sent
    refine ⟨packets, length, ?_, carried⟩
    unfold RunsOn
    rw [header]
    exact runsOn

theorem Settled.startMedia (settled : clock.Settled platform) (remote : RemoteMedia) (now : Int) :
    (clock.startMedia remote now).Settled platform := by
  have kept := (clock.sender.media.startMedia_keeps remote).2
  have same := (Engine.startMedia_platform remote clock.sender.media).trans settled.platform
  unfold FrameClock.startMedia Sender.startMedia
  dsimp only
  by_cases starts : ((clock.sender.media.startMedia remote).2.active &&
    !clock.sender.session.active) = true
  · rw [if_pos starts]
    rw [Bool.and_eq_true, Bool.not_eq_true'] at starts
    rw [if_pos (by rw [starts.2]; rfl)]
    exact ⟨⟨⟨[], rfl, rfl⟩, rfl, [], rfl, .nil _, .nil⟩, same, starts.1, fun _ => rfl⟩
  · rw [if_neg starts, if_neg (by simp)]
    refine settled.rest [] rfl rfl rfl rfl id (same.trans settled.platform.symm) ?_
    have on := settled.active
    show (clock.sender.media.startMedia remote).2.active = clock.sender.session.active
    cases active : clock.sender.session.active with
    | true => exact kept (on.trans active)
    | false => simpa [active] using starts

theorem Settled.turn (settled : clock.Settled platform) (turn : FrameTurn) :
    (clock.turn turn).Settled platform := by
  cases turn with
  | openMedia =>
    have same : clock.sender.media.openMedia.2.platform = clock.sender.media.platform := by
      unfold Engine.openMedia
      split <;> rfl
    refine settled.rest [] rfl rfl rfl rfl id same ?_
    exact (Sender.Like.openMedia clock.sender).active.trans settled.active
  | startMedia remote now => exact settled.startMedia remote now
  | closeMedia => exact settled.rest [.stop] rfl rfl rfl rfl nofun rfl rfl
  | receive datagram arrivalUs =>
    have like := Sender.Like.receive datagram arrivalUs clock.sender
    have same : (clock.sender.media.receive datagram).2.platform = clock.sender.media.platform := by
      unfold Engine.receive
      split
      · split <;> rfl
      · rfl
    obtain ⟨ops, unframed, session⟩ : ∃ ops : List SessionOp, ops.filter framed = [] ∧
        (clock.sender.receive datagram arrivalUs).session =
          run MediaSession.step clock.sender.session ops := by
      unfold Sender.receive
      dsimp only
      cases (clock.sender.media.receive datagram).1 with
      | none => exact ⟨[], rfl, rfl⟩
      | some packet =>
        rw [Option.map_some, Option.getD_some]
        split
        next fits =>
          refine ⟨[.onPacket ⟨packet, fits⟩ arrivalUs], rfl, ?_⟩
          rw [run_cons, run_nil, MediaSession.step]
        · exact ⟨[], rfl, rfl⟩
    exact settled.rest ops unframed session like.session.sendHeader like.session.counted
      like.session.active.symm.trans same
      (like.active.trans (settled.active.trans like.session.active.symm))
  | captured samples =>
    exact settled.rest [.captured samples] rfl rfl rfl rfl id rfl settled.active
  | rendered count =>
    exact settled.rest [.rendered count] rfl rfl rfl rfl id rfl settled.active
  | pass now =>
    obtain ⟨next, count, rounds⟩ := clock.pass_rounds now
    show (clock.pass now).Settled platform
    rw [rounds.equal]
    have late : { clock with nextFrame := next }.Settled platform :=
      ⟨⟨settled.called, settled.counted, settled.sent⟩, settled.platform, settled.active,
        settled.audio⟩
    rcases rounds.media with rfl | media
    · exact late
    · exact (Function.Iterate.rec
        (fun clock : FrameClock Session => clock.Settled platform ∧
          clock.sender.session.active = true ∧ clock.sender.media.rtp.isSome = true)
        ⟨late, media⟩ (fun _ on => on.1.make on.2) count).1

end FrameClock

end KetPhone.Core
