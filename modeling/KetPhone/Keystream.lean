/-
This file follows the keystreams of SRTP. A keystream is used twice when a second
outbound context is created under one key, or when the packets of one context do not
count up. What can go wrong is spread over three functions: `use_keys` decides whether
the outbound context is kept, `start_media` whether the session starts over, and
`close_media` gives both up.

Here the engine has its whole media session, and every outbound context is on record
with the packets that it was given. The agent draws a key for each call that opens its
media and asks for nothing else under that key until it closes them again. In between
the context is created once, at the first start that libsrtp allows, and the session
starts once, so a later start finds both as they are, also after one that failed.
-/

import KetPhone.Secure
import KetPhone.MediaSession
import Mathlib.Data.List.ModifyLast

namespace KetPhone.Core

open Sip Media List UserAgent

variable {Host Session : Type}
variable {remote : RemoteMedia} {packets more : List Bytes} {keys : MediaKeys}
  (engine : Engine Session)

/-! ### The engine and its session -/

/-- An outbound SRTP context: its key, and the packets that were passed to `protect`. -/
structure Outbound where
  key : Bytes
  packets : List Bytes := []
  deriving DecidableEq

def Outbound.protect (packet : Bytes) (outbound : Outbound) : Outbound :=
  { outbound with packets := outbound.packets ++ [packet] }

/-- Whether `use_keys` creates an outbound context. -/
def Engine.creates (keys : MediaKeys) (engine : Engine Session) : Bool :=
  keys.own.length = kSrtpKeyLength && keys.remote.length = kSrtpKeyLength &&
    (engine.srtpOut.filter fun stream => stream.key = keys.own).isNone &&
      (engine.platform.srtpCreate engine.calls .outbound keys.own).isSome

/-- The outbound context that `start_media` creates, if any. -/
def Engine.created (remote : RemoteMedia) (engine : Engine Session) : List Outbound :=
  if engine.rtp.isSome then
    ((remote.srtp.filter engine.creates).map fun keys => { key := keys.own }).toList
  else []

/-- The engine with its media session, and with every outbound context so far, in order. -/
structure Sender (Session : Type) where
  media : Engine Session
  session : MediaSession
  /-- `random_u32`, by the number of the draw. -/
  numbers : Nat → UInt32
  draws : Nat := 0
  outbounds : List Outbound := []

namespace Sender

/-- `MediaSession::start` with random numbers. -/
def startSession (sender : Sender Session) : Sender Session :=
  { sender with
    session := sender.session.start (sender.numbers sender.draws)
      (sender.numbers (sender.draws + 1)).toUInt16 (sender.numbers (sender.draws + 2))
    draws := sender.draws + 3 }

/-- A start that reaches the far end has the session active, and starts it unless it was. -/
def startMedia (remote : RemoteMedia) (sender : Sender Session) : Bool × Sender Session :=
  let (started, media) := sender.media.startMedia remote
  let next : Sender Session :=
    { sender with media, outbounds := sender.outbounds ++ sender.media.created remote }
  (started, if media.active && !sender.session.active then next.startSession else next)

instance : UserAgentHost (Sender Session) where
  sendSip message sender := { sender with media := UserAgentHost.sendSip message sender.media }
  openMedia sender :=
    let (port, media) := sender.media.openMedia
    (port, { sender with media })
  startMedia := startMedia
  closeMedia sender :=
    { sender with media := sender.media.closeMedia, session := sender.session.stop }
  allocateCallId sender :=
    let (id, media) := sender.media.allocateCallId
    (id, { sender with media })

/-- A datagram on the RTP socket. What is left of it fits the loop's buffer. -/
def receive (datagram : Bytes) (arrivalUs : Int) (sender : Sender Session) : Sender Session :=
  let (plain, media) := sender.media.receive datagram
  let heard (packet : Bytes) : MediaSession :=
    if fits : packet.length < 2 ^ 64 then sender.session.onPacket ⟨packet, fits⟩ arrivalUs
    else sender.session
  { sender with media, session := (plain.map heard).getD sender.session }

/-- A frame that is due: a packet is made, protected and sent, and a frame is played. -/
def emit (nowUs : Int) (sender : Sender Session) : Option Bytes × Sender Session :=
  if sender.session.active && sender.media.rtp.isSome then
    let (packet, session) := sender.session.nextPacket kMaxPacketSize
    let protects := !packet.isEmpty && sender.media.srtpOut.isSome
    let (datagram, media) := sender.media.transmit packet
    (datagram,
      { sender with
        media
        session := session.playFrame nowUs
        outbounds :=
          if protects then sender.outbounds.modifyLast (Outbound.protect packet)
          else sender.outbounds })
  else (none, sender)

def frame (nowUs : Int) (sender : Sender Session) : Sender Session := (sender.emit nowUs).2

end Sender

/-- What happens to the user agent, its engine and the media session. -/
inductive SenderAct where
  | operate (op : Op)
  | receive (datagram : Bytes) (arrivalUs : Int)
  | frame (nowUs : Int)
  /-- The audio thread records and plays. -/
  | captured (samples : List Int16)
  | rendered (count : Nat)
  /-- The application takes a call id for `call`, on its own thread. -/
  | allocate

/-- The host alone changes. -/
def UserAgent.withHost (agent : UserAgent Host) (host : Host) : UserAgent Host :=
  { agent with host }

def UserAgent.sends (agent : UserAgent (Sender Session)) : SenderAct → UserAgent (Sender Session)
  | .operate op => agent.step op
  | .receive datagram arrivalUs => agent.withHost (agent.host.receive datagram arrivalUs)
  | .frame nowUs => agent.withHost (agent.host.frame nowUs)
  | .captured samples =>
    agent.withHost { agent.host with session := agent.host.session.step (.captured samples) }
  | .rendered count =>
    agent.withHost { agent.host with session := agent.host.session.step (.rendered count) }
  | .allocate => agent.withHost (UserAgentHost.allocateCallId agent.host).2

/-- The key that an operation gets from the system generator for its call. -/
def UserAgent.drawnKey [UserAgentHost Host] (agent : UserAgent Host) : Op → Option Bytes
  | .call _ target _ =>
    if UserAgent.validTarget target && !(agent.current.isSome || agent.shuttingDown) &&
        agent.openMedia.1 ≠ 0 then
      agent.random.secure (agent.draws + 3)
    else none
  | .answer id _ =>
    if (agent.current.any fun call => call.id = id && !call.outgoing && call.state = .ringing) &&
        agent.openMedia.1 ≠ 0 then
      agent.random.secure (agent.draws + 1)
    else none
  | _ => none

def UserAgent.drawnBy (agent : UserAgent (Sender Session)) : SenderAct → Option Bytes
  | .operate op => agent.drawnKey op
  | _ => none

/-- The keys that the system generator gave in a run, in order. -/
def keysDrawn (past : List (UserAgent (Sender Session) × SenderAct)) : List Bytes :=
  past.filterMap fun moment => moment.1.drawnBy moment.2

/-- What a packet says about itself. -/
def rtpHeader (packet : Bytes) : Option RtpHeader :=
  if fits : packet.length < 2 ^ 64 then (parseRtp ⟨packet, fits⟩).map RtpPacket.header else none

/-- The packets come from one source, and their sequence numbers go up by one. -/
def OneStream (packets : List Bytes) : Prop :=
  ∃ headers : List RtpHeader, packets.map rtpHeader = headers.map some ∧
    (∀ first ∈ headers, ∀ second ∈ headers, first.ssrc = second.ssrc) ∧
      headers.IsChain fun first second =>
        second.sequence.toNat = (first.sequence.toNat + 1) % 65536

/-! ### Packets -/

/-- The session goes on sending what it would have sent. -/
structure SameSending (before after : MediaSession) : Prop where
  active : after.active = before.active
  sendHeader : after.sendHeader = before.sendHeader
  counted : after.counted.packetsSent = before.counted.packetsSent

namespace SameSending

theorem onPacket (datagram : Datagram) (arrivalUs : Int) (session : MediaSession) :
    SameSending session (session.onPacket datagram arrivalUs) := by
  unfold MediaSession.onPacket
  split
  · exact ⟨rfl, rfl, rfl⟩
  · split
    · exact ⟨rfl, rfl, rfl⟩
    · unfold MediaSession.follow
      split <;> exact ⟨rfl, rfl, rfl⟩

theorem conceal (session : MediaSession) : SameSending session session.conceal.2 := by
  unfold MediaSession.conceal
  split <;> exact ⟨rfl, rfl, rfl⟩

theorem playFrame (nowUs : Int) (session : MediaSession) :
    SameSending session (session.playFrame nowUs) := by
  unfold MediaSession.playFrame
  dsimp only
  generalize (session.jitter.pop nowUs).1 = result
  cases result with
  | played payload => exact ⟨rfl, rfl, rfl⟩
  | missing => exact ⟨(conceal _).active, (conceal _).sendHeader, (conceal _).counted⟩
  | expanded => exact ⟨(conceal _).active, (conceal _).sendHeader, (conceal _).counted⟩
  | buffering => exact ⟨rfl, rfl, rfl⟩

end SameSending

/-- A packet follows another of its source. -/
structure Succeeds (first second : RtpHeader) : Prop where
  ssrc : second.ssrc = first.ssrc
  sequence : second.sequence = first.sequence + 1
  timestamp : second.timestamp = first.timestamp + 160

/-- The packets so far, and the session's next one, follow each other. -/
def RunsOn (session : MediaSession) (packets : List Bytes) : Prop :=
  ∃ headers : List RtpHeader, packets.map rtpHeader = headers.map some ∧
    (headers ++ [session.sendHeader]).IsChain Succeeds

theorem ssrc_of_isChain {headers : List RtpHeader} (chain : headers.IsChain Succeeds) :
    ∀ first ∈ headers, ∀ second ∈ headers, first.ssrc = second.ssrc := by
  have same : headers.IsChain fun first second => first.ssrc = second.ssrc :=
    chain.imp fun _ _ succeeds => succeeds.ssrc.symm
  have pairs : headers.Pairwise fun first second => first.ssrc = second.ssrc :=
    isChain_iff_pairwise.mp same
  have symmetric : Std.Symm fun first second : RtpHeader => first.ssrc = second.ssrc :=
    ⟨fun _ _ equal => equal.symm⟩
  intro first here second there
  exact List.Pairwise.forall_of_forall (R := fun first second => first.ssrc = second.ssrc)
    (fun _ _ => rfl) pairs here there

theorem RunsOn.oneStream {session : MediaSession} (runsOn : RunsOn session packets) :
    OneStream packets := by
  obtain ⟨headers, read, chain⟩ := runsOn
  have before : headers.IsChain Succeeds := chain.left_of_append
  refine ⟨headers, read, ssrc_of_isChain before, before.imp fun first second succeeds => ?_⟩
  rw [succeeds.sequence]
  exact UInt16.toNat_add ..

theorem RunsOn.nil (session : MediaSession) : RunsOn session [] :=
  ⟨[], rfl, isChain_singleton _⟩

theorem RunsOn.same {before after : MediaSession} (runsOn : RunsOn before packets)
    (same : SameSending before after) : RunsOn after packets := by
  unfold RunsOn
  rw [same.sendHeader]
  exact runsOn

theorem rtpHeader_writeRtp {header : RtpHeader} {payload : Bytes}
    (audio : header.payloadType = kPayloadPcma) (length : payload.length = kFrameSamples) :
    writeRtp kMaxPacketSize header payload ≠ [] ∧
      rtpHeader (writeRtp kMaxPacketSize header payload) = some header := by
  have small : header.payloadType < 128 := by
    rw [audio]
    decide
  have apart : ¬ (200 ≤ header.second ∧ header.second ≤ 204) := by
    unfold RtpHeader.second
    rw [audio]
    cases header.marker <;> decide
  have room : 12 + payload.length ≤ kMaxPacketSize := by
    rw [length]
    decide
  have written : (writeRtp kMaxPacketSize header payload).length = 12 + payload.length := by
    rw [writeRtp_eq room, length_append]
    rfl
  have fits : (writeRtp kMaxPacketSize header payload).length < 2 ^ 64 := by
    rw [written, length]
    decide
  constructor
  · intro empty
    rw [empty] at written
    exact absurd written (by rw [length]; decide)
  · unfold rtpHeader
    rw [dif_pos fits, parseRtp_writeRtp room small apart fits]
    rfl

theorem length_frameOf (samples : List Int16) : (frameOf samples).length = kFrameSamples := by
  unfold frameOf
  rw [length_append, length_take, length_replicate]
  omega

/-- A packet of an audio session. -/
structure NextPacket (session : MediaSession) (packet : Bytes) (after : MediaSession) : Prop where
  nonempty : packet ≠ []
  header : rtpHeader packet = some session.sendHeader
  active : after.active = session.active
  audio : after.sendHeader.payloadType = session.sendHeader.payloadType
  succeeds : Succeeds session.sendHeader after.sendHeader
  counted : after.counted.packetsSent = session.counted.packetsSent + 1

theorem nextPacket_spec {session : MediaSession}
    (audio : session.sendHeader.payloadType = kPayloadPcma) :
    NextPacket session (session.nextPacket kMaxPacketSize).1
      (session.nextPacket kMaxPacketSize).2 := by
  let payload := (frameOf (session.capture.pop kFrameSamples).1).map alawEncode
  have length : payload.length = kFrameSamples := by
    rw [length_map, length_frameOf]
  obtain ⟨nonempty, header⟩ := rtpHeader_writeRtp audio length
  have written : (writeRtp kMaxPacketSize session.sendHeader payload).isEmpty = false := by
    rwa [isEmpty_eq_false_iff]
  unfold MediaSession.nextPacket
  dsimp only
  rw [if_neg (Bool.eq_false_iff.mp written)]
  exact ⟨nonempty, header, rfl, rfl, ⟨rfl, rfl, rfl⟩, rfl⟩

theorem RunsOn.nextPacket {session after : MediaSession} {packet : Bytes}
    (runsOn : RunsOn session packets) (next : NextPacket session packet after) :
    RunsOn after (packets ++ [packet]) := by
  obtain ⟨headers, read, chain⟩ := runsOn
  refine ⟨headers ++ [session.sendHeader], ?_, ?_⟩
  · rw [map_append, map_append, read]
    exact congrArg (fun header => headers.map some ++ [header]) next.header
  · refine chain.append (isChain_singleton _) fun last here first there => ?_
    rw [List.getLast?_concat] at here
    cases here
    cases there
    exact next.succeeds

/-! ### One context for one key -/

theorem Engine.useKeys_srtpOut {engine sending : Engine Session} {outbound : SrtpStream Session}
    (lengths : ¬ (keys.own.length ≠ kSrtpKeyLength ∨ keys.remote.length ≠ kSrtpKeyLength))
    (outcome : engine.streamFor .outbound keys.own engine.srtpOut = (some outbound, sending)) :
    (engine.useKeys keys).2.srtpOut = some outbound := by
  unfold useKeys
  rw [if_neg lengths, outcome]
  dsimp only
  split
  next failed further => rcases streamFor_engine further with rfl | rfl <;> rfl
  next inbound receiving further => rcases streamFor_engine further with rfl | rfl <;> rfl

/-- What `use_keys` does about the outbound context: it creates one, or leaves it as it is. -/
inductive Engine.KeysOut (engine : Engine Session) (own : Bytes) :
    Bool → Bool → Engine Session → Prop
  | created {usable : Bool} {after : Engine Session} {stream : SrtpStream Session}
      (outbound : after.srtpOut = some stream) (key : stream.key = own) :
    KeysOut engine own true usable after
  | kept {usable : Bool} {after : Engine Session} (outbound : after.srtpOut = engine.srtpOut)
      (keyed : usable = true → ∃ stream, engine.srtpOut = some stream ∧ stream.key = own) :
    KeysOut engine own false usable after

theorem Engine.useKeys_out (keys : MediaKeys) :
    engine.KeysOut keys.own (engine.creates keys) (engine.useKeys keys).1
      (engine.useKeys keys).2 := by
  by_cases lengths : keys.own.length ≠ kSrtpKeyLength ∨ keys.remote.length ≠ kSrtpKeyLength
  · have refused : engine.creates keys = false := by
      unfold creates
      rcases lengths with short | short <;> simp [short]
    rw [refused, useKeys, if_pos lengths]
    exact .kept rfl nofun
  · have creates : engine.creates keys =
        ((engine.srtpOut.filter fun stream => stream.key = keys.own).isNone &&
          (engine.platform.srtpCreate engine.calls .outbound keys.own).isSome) := by
      simp only [ne_eq, not_or, Decidable.not_not] at lengths
      simp [Engine.creates, lengths]
    rw [creates]
    cases current : engine.srtpOut.filter fun stream => stream.key = keys.own with
    | some stream =>
      obtain ⟨present, own⟩ := Option.filter_eq_some_iff.mp current
      have outcome :
          engine.streamFor .outbound keys.own engine.srtpOut = (some stream, engine) := by
        unfold streamFor
        rw [current]
      exact .kept ((useKeys_srtpOut lengths outcome).trans present.symm)
        fun _ => ⟨stream, present, of_decide_eq_true own⟩
    | none =>
      cases made : engine.platform.srtpCreate engine.calls .outbound keys.own with
      | none =>
        have outcome : engine.streamFor .outbound keys.own engine.srtpOut =
            (none, engine.called) := by
          unfold streamFor
          rw [current, made]
          rfl
        rw [useKeys, if_neg lengths, outcome]
        exact .kept rfl nofun
      | some session =>
        have outcome : engine.streamFor .outbound keys.own engine.srtpOut =
            (some { key := keys.own, session }, engine.called) := by
          unfold streamFor
          rw [current, made]
          rfl
        exact .created (useKeys_srtpOut lengths outcome) rfl

theorem Engine.ne_of_creates (creates : engine.creates keys = true) :
    engine.srtpOut.map SrtpStream.key ≠ some keys.own := by
  intro keyed
  obtain ⟨stream, present, same⟩ := Option.map_eq_some_iff.mp keyed
  simp [Engine.creates, present, same] at creates

theorem Engine.active_connect {engine : Engine Session} (family : AddressFamily)
    (remote : RemoteMedia) (active : engine.active = true) :
    (engine.connect family remote).active = true := by
  unfold connect
  split
  · exact active
  · rfl

/-- What a start with keys does about the outbound context and the session. -/
theorem Engine.startMedia_out (keyed : remote.srtp = some keys) :
    (engine.active = true → (engine.startMedia remote).2.active = true) ∧
      (engine.created remote = [{ key := keys.own }] ∧
          (engine.startMedia remote).2.srtpOut.map SrtpStream.key = some keys.own ∧
            engine.srtpOut.map SrtpStream.key ≠ some keys.own ∨
        engine.created remote = [] ∧ (engine.startMedia remote).2.srtpOut = engine.srtpOut ∧
          (engine.srtpOut = none → (engine.startMedia remote).2.active = engine.active)) := by
  cases opened : engine.rtp with
  | none =>
    have nothing : engine.created remote = [] := by
      unfold created
      rw [opened]
      rfl
    rw [startMedia_unopened remote opened]
    exact ⟨id, Or.inr ⟨nothing, rfl, fun _ => rfl⟩⟩
  | some family =>
    have created : engine.created remote =
        if engine.creates keys then [{ key := keys.own }] else [] := by
      unfold Engine.created
      rw [opened, keyed]
      cases creates : engine.creates keys <;> simp [creates]
    have active := (engine.useKeys_usesKeys keys).active
    have out := engine.useKeys_out keys
    have other : engine.creates keys = true → _ := engine.ne_of_creates
    rw [created, startMedia_keyed opened keyed]
    generalize engine.creates keys = creates at other out
    generalize engine.useKeys keys = result at active out
    obtain ⟨usable, after⟩ := result
    obtain ⟨-, connected, -⟩ := after.connect_contexts family remote
    have runs : engine.active = true →
        (if !usable then (false, after)
          else (true, after.connect family remote)).2.active = true := by
      intro running
      cases usable with
      | false => exact active.trans running
      | true => exact active_connect family remote (active.trans running)
    refine ⟨runs, ?_⟩
    have srtpOut : (if !usable then (false, after) else
        (true, after.connect family remote)).2.srtpOut = after.srtpOut := by
      cases usable with
      | false => rfl
      | true => exact connected
    rw [srtpOut]
    cases out with
    | created outbound key =>
      refine Or.inl ⟨rfl, ?_, other rfl⟩
      rw [outbound, Option.map_some, key]
    | kept outbound known =>
      refine Or.inr ⟨rfl, outbound, fun absent => ?_⟩
      cases usable with
      | false => exact active
      | true =>
        obtain ⟨stream, present, -⟩ := known rfl
        exact nomatch absent.symm.trans present

theorem Engine.transmit_out (packet : Bytes) :
    (engine.transmit packet).2.srtpOut.map SrtpStream.key =
        engine.srtpOut.map SrtpStream.key ∧
      (engine.transmit packet).2.active = engine.active := by
  unfold transmit
  split
  · split
    · exact ⟨rfl, rfl⟩
    next stream set =>
      rw [set]
      exact ⟨rfl, rfl⟩
  · exact ⟨rfl, rfl⟩

/-! ### The sender -/

namespace Sender

variable {sender before after : Sender Session} {keys reserve : List Bytes} {own : Bytes}

/-- No context is set and nothing is sent. The contexts so far, and those still to come, have keys
that were drawn in this order. -/
structure Idle (keys reserve : List Bytes) (sender : Sender Session) : Prop where
  unset : sender.media.srtpOut = none
  inactive : sender.media.active = false ∧ sender.session.active = false
  drawn : (sender.outbounds.map Outbound.key ++ reserve).Sublist keys
  ordered : ∀ outbound ∈ sender.outbounds, OneStream outbound.packets

/-- The last context is set. It has no packets before the session starts, and gets all that the
session makes. -/
structure Sending (keys : List Bytes) (own : Bytes) (sender : Sender Session) : Prop where
  keyed : sender.media.srtpOut.map SrtpStream.key = some own
  active : sender.media.active = sender.session.active
  drawn : (sender.outbounds.map Outbound.key).Sublist keys
  audio : sender.session.active = true → sender.session.sendHeader.payloadType = kPayloadPcma
  last : ∃ older packets, sender.outbounds = older ++ [{ key := own, packets }] ∧
    (∀ outbound ∈ older, OneStream outbound.packets) ∧ RunsOn sender.session packets ∧
      (sender.session.active = false → packets = [])

/-- Media is open under a key, whose context is still to come or is set. -/
def Open (keys : List Bytes) (own : Bytes) (sender : Sender Session) : Prop :=
  sender.Idle keys [own] ∨ sender.Sending keys own

theorem Idle.mono (idle : sender.Idle keys reserve) (grows : keys.Sublist more) :
    sender.Idle more reserve :=
  { idle with drawn := idle.drawn.trans grows }

theorem Idle.draw (idle : sender.Idle keys []) (own : Bytes) :
    sender.Idle (keys ++ [own]) [own] := by
  have drawn := idle.drawn
  rw [append_nil] at drawn
  exact { idle with drawn := drawn.append_right [own] }

theorem Open.mono (opened : sender.Open keys own) (grows : keys.Sublist more) :
    sender.Open more own := by
  rcases opened with idle | sending
  · exact Or.inl (idle.mono grows)
  · exact Or.inr { sending with drawn := sending.drawn.trans grows }

/-- The sender goes on with what it has. -/
structure Like (before after : Sender Session) : Prop where
  keyed : after.media.srtpOut.map SrtpStream.key = before.media.srtpOut.map SrtpStream.key
  active : after.media.active = before.media.active
  session : SameSending before.session after.session
  outbounds : after.outbounds = before.outbounds

theorem Idle.like (idle : before.Idle keys reserve) (like : Like before after) :
    after.Idle keys reserve where
  unset := by
    have keyed := like.keyed
    rwa [idle.unset, Option.map_none, Option.map_eq_none_iff] at keyed
  inactive := ⟨like.active.trans idle.inactive.1, like.session.active.trans idle.inactive.2⟩
  drawn := like.outbounds ▸ idle.drawn
  ordered := like.outbounds ▸ idle.ordered

theorem Sending.like (sending : before.Sending keys own) (like : Like before after) :
    after.Sending keys own where
  keyed := like.keyed.trans sending.keyed
  active := by rw [like.active, like.session.active, sending.active]
  drawn := like.outbounds ▸ sending.drawn
  audio := by
    rw [like.session.active, like.session.sendHeader]
    exact sending.audio
  last := by
    obtain ⟨older, packets, recorded, ordered, runsOn, fresh⟩ := sending.last
    refine ⟨older, packets, like.outbounds.trans recorded, ordered,
      runsOn.same like.session, ?_⟩
    rw [like.session.active]
    exact fresh

theorem Open.like (opened : before.Open keys own) (like : Like before after) :
    after.Open keys own :=
  opened.imp (fun idle => idle.like like) fun sending => sending.like like

theorem Like.openMedia (sender : Sender Session) :
    Like sender (UserAgentHost.openMedia sender).2 := by
  show Like sender { sender with media := sender.media.openMedia.2 }
  have same : sender.media.openMedia.2.srtpOut = sender.media.srtpOut ∧
      sender.media.openMedia.2.active = sender.media.active := by
    unfold Engine.openMedia
    split <;> exact ⟨rfl, rfl⟩
  exact ⟨congrArg _ same.1, same.2, ⟨rfl, rfl, rfl⟩, rfl⟩

theorem Like.receive (datagram : Bytes) (arrivalUs : Int) (sender : Sender Session) :
    Like sender (sender.receive datagram arrivalUs) := by
  have same : (sender.media.receive datagram).2.srtpOut = sender.media.srtpOut ∧
      (sender.media.receive datagram).2.active = sender.media.active := by
    unfold Engine.receive
    split
    · split <;> exact ⟨rfl, rfl⟩
    · exact ⟨rfl, rfl⟩
  refine ⟨congrArg _ same.1, same.2, ?_, rfl⟩
  unfold Sender.receive
  dsimp only
  cases (sender.media.receive datagram).1 with
  | none => exact ⟨rfl, rfl, rfl⟩
  | some packet =>
    rw [Option.map_some, Option.getD_some]
    split
    · exact .onPacket _ arrivalUs sender.session
    · exact ⟨rfl, rfl, rfl⟩

theorem Idle.closeMedia (idle : sender.Idle keys reserve) :
    (UserAgentHost.closeMedia sender).Idle keys [] where
  unset := rfl
  inactive := ⟨rfl, rfl⟩
  drawn := by
    rw [append_nil]
    exact (sublist_append_left _ _).trans idle.drawn
  ordered := idle.ordered

theorem Open.closeMedia (opened : sender.Open keys own) :
    (UserAgentHost.closeMedia sender).Idle keys [] := by
  rcases opened with idle | sending
  · exact idle.closeMedia
  · refine ⟨rfl, ⟨rfl, rfl⟩, (append_nil _).symm ▸ sending.drawn, ?_⟩
    obtain ⟨older, packets, recorded, ordered, runsOn, -⟩ := sending.last
    show ∀ outbound ∈ sender.outbounds, OneStream outbound.packets
    rw [recorded]
    intro outbound member
    rcases mem_append.mp member with early | late
    · exact ordered outbound early
    · cases mem_singleton.mp late
      exact runsOn.oneStream

/-- The session of a sender whose context is set starts, or goes on. -/
theorem Sending.startSession (next : Sender Session)
    (keyed : next.media.srtpOut.map SrtpStream.key = some own)
    (drawn : (next.outbounds.map Outbound.key).Sublist keys)
    (audio : next.session.active = true → next.session.sendHeader.payloadType = kPayloadPcma)
    (last : ∃ older packets, next.outbounds = older ++ [{ key := own, packets }] ∧
      (∀ outbound ∈ older, OneStream outbound.packets) ∧ RunsOn next.session packets ∧
        (next.session.active = false → packets = []))
    (runs : next.session.active = true → next.media.active = true) :
    Sending keys own
      (if next.media.active && !next.session.active then next.startSession else next) := by
  split
  next starts =>
    rw [Bool.and_eq_true, Bool.not_eq_true'] at starts
    obtain ⟨older, packets, recorded, ordered, -, fresh⟩ := last
    -- The first start of the session: no packet was made before it.
    cases fresh starts.2
    exact ⟨keyed, starts.1, drawn, fun _ => rfl, older, [], recorded, ordered, .nil _, fun _ => rfl⟩
  next stays =>
    refine ⟨keyed, ?_, drawn, audio, last⟩
    cases running : next.session.active with
    | true => exact runs running
    | false =>
      rw [running] at stays
      simpa using stays

theorem Open.startMedia {mediaKeys : MediaKeys} (opened : sender.Open keys own)
    (keyed : remote.srtp = some mediaKeys) (same : mediaKeys.own = own) :
    (sender.startMedia remote).2.Open keys own := by
  have outcome := sender.media.startMedia_out keyed
  rw [same] at outcome
  unfold Sender.startMedia
  dsimp only
  generalize sender.media.startMedia remote = result at outcome
  obtain ⟨started, media⟩ := result
  obtain ⟨runs, ⟨created, set, other⟩ | ⟨created, kept, waits⟩⟩ := outcome
  · rw [created]
    rcases opened with idle | sending
    · refine Or.inr (.startSession { sender with media, outbounds := _ } set ?_ ?_ ?_ ?_)
      · rw [map_append]
        exact idle.drawn
      · exact fun running => nomatch idle.inactive.2.symm.trans running
      · exact ⟨sender.outbounds, [], rfl, idle.ordered, .nil _, fun _ => rfl⟩
      · exact fun running => nomatch idle.inactive.2.symm.trans running
    · exact absurd sending.keyed other
  · rw [created, append_nil]
    rcases opened with idle | sending
    · refine Or.inl ?_
      have still : media.active = false := (waits idle.unset).trans idle.inactive.1
      rw [still, Bool.false_and, if_neg Bool.false_ne_true]
      exact ⟨kept.trans idle.unset, ⟨still, idle.inactive.2⟩, idle.drawn, idle.ordered⟩
    · refine Or.inr (.startSession { sender with media } ?_ sending.drawn sending.audio
        sending.last ?_)
      · exact (congrArg _ kept).trans sending.keyed
      · exact fun running => runs (sending.active.trans running)

theorem Idle.frame (idle : sender.Idle keys reserve) (nowUs : Int) :
    (sender.frame nowUs).Idle keys reserve := by
  unfold Sender.frame Sender.emit
  rw [idle.inactive.2, Bool.false_and, if_neg Bool.false_ne_true]
  exact idle

theorem Sending.frame (sending : sender.Sending keys own) (nowUs : Int) :
    (sender.frame nowUs).Sending keys own := by
  unfold Sender.frame Sender.emit
  split
  next ready =>
    rw [Bool.and_eq_true] at ready
    obtain ⟨active, opened⟩ := ready
    obtain ⟨older, packets, recorded, ordered, runsOn, fresh⟩ := sending.last
    obtain ⟨stream, set, key⟩ := Option.map_eq_some_iff.mp sending.keyed
    have next := nextPacket_spec (sending.audio active)
    dsimp only
    generalize sender.session.nextPacket kMaxPacketSize = made at next
    obtain ⟨packet, session⟩ := made
    have protects : (!packet.isEmpty && sender.media.srtpOut.isSome) = true := by
      rw [set, isEmpty_eq_false_iff.mpr next.nonempty]
      rfl
    have grown : sender.outbounds.modifyLast (Outbound.protect packet) =
        older ++ [{ key := own, packets := packets ++ [packet] }] := by
      rw [recorded, modifyLast_concat]
      rfl
    have played := SameSending.playFrame nowUs session
    obtain ⟨keyed, running⟩ := sender.media.transmit_out packet
    dsimp only
    rw [if_pos protects, grown]
    refine ⟨keyed.trans sending.keyed, ?_, ?_, fun _ => ?_, older, _, rfl, ordered,
      (runsOn.nextPacket next).same played, fun stopped => ?_⟩
    · rw [running, sending.active, played.active, next.active]
    · have drawn := sending.drawn
      rw [recorded, map_append] at drawn
      rw [map_append]
      exact drawn
    · rw [played.sendHeader, next.audio, sending.audio active]
    · rw [played.active, next.active, active] at stopped
      exact nomatch stopped
  next => exact sending

theorem Open.frame (opened : sender.Open keys own) (nowUs : Int) :
    (sender.frame nowUs).Open keys own :=
  opened.imp (fun idle => idle.frame nowUs) fun sending => sending.frame nowUs

/-- Media is open under a key, or not open. -/
def Keeps (keys : List Bytes) : Option Bytes → Sender Session → Prop
  | none, sender => sender.Idle keys []
  | some own, sender => sender.Open keys own

theorem Keeps.like {own : Option Bytes} (kept : before.Keeps keys own) (like : Like before after) :
    after.Keeps keys own := by
  cases own with
  | none => exact Idle.like kept like
  | some own => exact Open.like kept like

/-- A sender that does what it is asked in turn, but for opening media. -/
theorem Keeps.drives {config : UserAgentConfig} {actions : List Action} {own last : Option Bytes}
    (kept : before.Keeps keys own) (drives : Drives config before actions after)
    (inTurn : MediaSteps own actions last) (unopened : ∀ port, .openMedia port ∉ actions) :
    after.Keeps keys last := by
  induction drives generalizing last with
  | refl =>
    cases inTurn
    exact kept
  | sendSip _ _ hypothesis | emit _ _ hypothesis | begin _ _ _ _ hypothesis =>
    obtain ⟨middle, early, late⟩ := inTurn.concat
    cases late with
    | apart =>
      refine (hypothesis early fun port member => ?_).like ⟨rfl, rfl, ⟨rfl, rfl, rfl⟩, rfl⟩
      exact unopened port (mem_append_left _ member)
  | openMedia => exact absurd (mem_append_right _ (mem_singleton_self _)) (unopened _)
  | startMedia _ remote hypothesis =>
    obtain ⟨middle, early, late⟩ := inTurn.concat
    have kept := hypothesis early fun port member => unopened port (mem_append_left _ member)
    cases late with
    | apart media => cases media
    | starts keyed => exact Open.startMedia kept keyed rfl
  | closeMedia _ hypothesis =>
    obtain ⟨middle, early, late⟩ := inTurn.concat
    have kept := hypothesis early fun port member => unopened port (mem_append_left _ member)
    cases late with
    | apart media => cases media
    | closes => exact Open.closeMedia kept
  | allocate _ hypothesis =>
    exact (hypothesis inTurn unopened).like ⟨rfl, rfl, ⟨rfl, rfl, rfl⟩, rfl⟩

end Sender

/-! ### The agent -/

section Openings

variable [UserAgentHost Host] {cause : Cause} {before after : UserAgent Host} {added : List Action}

/-- Only an answer and a call open media. -/
theorem CallStep.unopened (step : CallStep cause added before after)
    (answers : ∀ id, cause ≠ .answers id) (calls : ∀ id, cause ≠ .dials id) (port : UInt16) :
    .openMedia port ∉ added := by
  intro member
  have quiet (call : Call) (reason : EndReason) (status : Int) :
      .openMedia port ∉ call.farewell reason status := by
    unfold Call.farewell
    cases call.mediaOpen <;> simp
  cases step with
  | registers side log =>
    obtain ⟨grown, equal, concerns⟩ := side.frame.log
    cases append_cancel_left (log.symm.trans equal)
    exact (concerns _ member).1
  | calls turn =>
    cases turn with
    | dialFails _ _ _ _ dials => exact calls _ dials
    | dials _ _ _ _ _ _ dials => exact calls _ dials
    | answerFails _ _ _ _ _ own => exact answers _ own
    | accepts _ _ _ _ _ own => exact answers _ own
    | progresses _ _ _ _ _ _ told => rcases told with rfl | ⟨_, -, -, rfl⟩ <;> simp at member
    | resends _ _ sent => rcases sent with rfl | ⟨_, -, rfl⟩ <;> simp at member
    | forgets _ _ _ sent | fails _ _ _ sent =>
      rcases sent with rfl | ⟨_, rfl⟩ <;> simp [quiet] at member
    | drops _ _ _ _ _ refused => rcases refused with rfl | ⟨_, rfl⟩ <;> simp [quiet] at member
    | _ => simp [quiet] at member

theorem UserAgent.unopened (agent : UserAgent Host) {op : Op}
    (answers : ∀ id now, op ≠ .answer id now) (calls : ∀ id target now, op ≠ .call id target now)
    (port : UInt16) : .openMedia port ∉ agent.asked op := by
  obtain ⟨added, steps⟩ := CallSteps.stepped agent op
  rw [agent.asked_eq, steps.started, mem_append]
  rintro (resent | started)
  · obtain ⟨_, _, equal⟩ := pending_of_resent resent
    cases equal
  · refine steps.record (fun past _ => .openMedia port ∉ past) (fun step absent member => ?_)
      not_mem_nil started
    refine (mem_append.mp member).elim absent (step.unopened (fun id cause => ?_)
      (fun id cause => ?_) port)
    · obtain ⟨now, equal⟩ := Op.exists_of_answers cause
      exact answers id now equal
    · obtain ⟨target, now, equal⟩ := Op.exists_of_dials cause
      exact calls id target now equal

end Openings

/-- The sender fits the agent's call, and its keys are among those that were drawn. -/
inductive Tracks (keys : List Bytes) (agent : UserAgent (Sender Session)) : Prop
  | closed (shut : ∀ call, agent.current = some call → call.mediaOpen = false)
      (idle : agent.host.Idle keys [])
  | opened {call : Call} (present : agent.current = some call) (mediaOpen : call.mediaOpen = true)
      (opened : agent.host.Open keys call.srtpKey)

namespace Tracks

variable {keys : List Bytes} {before after : UserAgent (Sender Session)}

theorem keeps (tracks : Tracks keys before) : before.host.Keeps keys before.mediaKey := by
  cases tracks with
  | closed shut idle =>
    have key : before.mediaKey = none := by
      cases present : before.current with
      | none => exact mediaKey_of_none present
      | some call =>
        rw [mediaKey_of_some present, Call.mediaKey, shut call present]
        rfl
    rw [key]
    exact idle
  | opened present mediaOpen opened =>
    rw [mediaKey_of_some present, Call.mediaKey, if_pos mediaOpen]
    exact opened

theorem of_keeps (kept : before.host.Keeps keys before.mediaKey) : Tracks keys before := by
  cases present : before.current with
  | none =>
    rw [mediaKey_of_none present] at kept
    exact .closed (fun _ here => nomatch present.symm.trans here) kept
  | some call =>
    rw [mediaKey_of_some present, Call.mediaKey] at kept
    cases opened : call.mediaOpen with
    | true =>
      rw [opened] at kept
      exact .opened present opened kept
    | false =>
      rw [opened] at kept
      refine .closed (fun other here => ?_) kept
      cases present.symm.trans here
      exact opened

theorem mono (tracks : Tracks keys before) (grows : keys.Sublist more) : Tracks more before := by
  cases tracks with
  | closed shut idle => exact .closed shut (idle.mono grows)
  | opened present mediaOpen opened => exact .opened present mediaOpen (opened.mono grows)

theorem like (tracks : Tracks keys before) (current : after.current = before.current)
    (like : Sender.Like before.host after.host) : Tracks keys after := by
  cases tracks with
  | closed shut idle => exact .closed (current ▸ shut) (idle.like like)
  | opened present mediaOpen opened =>
    exact .opened (current.trans present) mediaOpen (opened.like like)

theorem set {call next : Call} (tracks : Tracks keys before) (present : before.current = some call)
    (current : after.current = some next) (mediaOpen : next.mediaOpen = call.mediaOpen)
    (srtpKey : next.srtpKey = call.srtpKey) (like : Sender.Like before.host after.host) :
    Tracks keys after := by
  cases tracks with
  | closed shut idle =>
    refine .closed (fun other here => ?_) (idle.like like)
    cases current.symm.trans here
    exact mediaOpen.trans (shut call present)
  | opened here isOpen opened =>
    cases here.symm.trans present
    exact .opened current (mediaOpen.trans isOpen) (srtpKey ▸ opened.like like)

theorem idle (tracks : Tracks keys before)
    (shut : ∀ call, before.current = some call → call.mediaOpen = false) :
    before.host.Idle keys [] := by
  cases tracks with
  | closed _ idle => exact idle
  | opened present mediaOpen _ => exact nomatch (shut _ present).symm.trans mediaOpen

theorem endIdle (agent : UserAgent (Sender Session)) (idle : agent.host.Idle keys [])
    (reason : EndReason) (status : Int) : Tracks keys (agent.endCall reason status) := by
  unfold endCall
  cases present : agent.current with
  | none => exact .closed (fun _ here => nomatch present.symm.trans here) idle
  | some call =>
    dsimp only
    cases mediaOpen : call.mediaOpen with
    | false => exact .closed (fun _ here => nomatch here) idle
    | true => exact .closed (fun _ here => nomatch here) idle.closeMedia

theorem endCall (tracks : Tracks keys before) (reason : EndReason) (status : Int) :
    Tracks keys (before.endCall reason status) := by
  cases tracks with
  | closed _ idle => exact endIdle before idle reason status
  | opened present mediaOpen opened =>
    unfold UserAgent.endCall
    rw [present]
    dsimp only
    rw [mediaOpen]
    exact .closed (fun _ here => nomatch here) opened.closeMedia

theorem startMedia {call : Call} {mediaKeys : MediaKeys} (tracks : Tracks keys before)
    (present : before.current = some call) (mediaOpen : call.mediaOpen = true)
    (keyed : remote.srtp = some mediaKeys) (own : mediaKeys.own = call.srtpKey) :
    Tracks keys (before.startMedia remote).2 := by
  cases tracks with
  | closed shut _ => exact nomatch (shut call present).symm.trans mediaOpen
  | opened here _ opened =>
    cases present.symm.trans here
    exact .opened present mediaOpen (opened.startMedia keyed own)

end Tracks

theorem UserAgent.newSrtpKey_secure (agent : UserAgent Host) (secure : agent.config.srtp = true)
    (call : Call) :
    (∃ key, agent.random.secure agent.draws = some key ∧
        agent.newSrtpKey call = (true, { call with srtpKey := key }, agent.drawn)) ∨
      ∃ next, agent.newSrtpKey call = (false, next, agent.drawn) := by
  unfold newSrtpKey
  rw [if_pos secure]
  cases drawn : agent.random.secure agent.draws with
  | some key => exact Or.inl ⟨key, rfl, rfl⟩
  | none => exact Or.inr ⟨_, rfl⟩

namespace Tracks

variable {keys : List Bytes} {agent : UserAgent (Sender Session)}

/-- An operation that neither calls nor answers. -/
theorem other {op : Op} (secure : agent.config.srtp = true) (sound : agent.Sound)
    (tracks : Tracks keys agent) (answers : ∀ id now, op ≠ .answer id now)
    (calls : ∀ id target now, op ≠ .call id target now) : Tracks keys (agent.step op) :=
  of_keeps (tracks.keeps.drives (agent.step_drives op).2 (sound.mediaSteps secure op)
    (agent.unopened answers calls))

theorem call (secure : agent.config.srtp = true) (tracks : Tracks keys agent) (id : Int32)
    (target : Bytes) (now : Time) :
    Tracks (keys ++ (agent.drawnKey (.call id target now)).toList)
      (agent.step (.call id target now)) := by
  have grows := sublist_append_left keys (agent.drawnKey (.call id target now)).toList
  show Tracks _ (agent.call id target now).2
  unfold UserAgent.call
  split
  · exact tracks.mono grows
  next valid =>
    split
    · exact tracks.mono grows
    next free =>
      have idle : agent.current = none := by
        simp only [Bool.or_eq_true, not_or, Bool.not_eq_true, Option.isSome_eq_false_iff,
          Option.isNone_iff_eq_none] at free
        exact free.1
      let begun := agent.openMedia.2.drawn.drawn.drawn.beginCall
        (agent.openMedia.2.outgoingCall id target agent.openMedia.1)
      have opened : begun.host.Idle keys [] :=
        (tracks.idle (by simp [idle])).like (.openMedia agent.host)
      dsimp only
      split
      next unopened => exact (endIdle begun opened _ _).mono grows
      next reached =>
        have drawn : agent.drawnKey (.call id target now) =
            agent.random.secure (agent.draws + 3) := by
          refine if_pos ?_
          simp only [Bool.not_eq_true', Bool.not_eq_false] at valid
          simp [valid, free, reached]
        rcases begun.newSrtpKey_secure secure
            (agent.openMedia.2.outgoingCall id target agent.openMedia.1) with
          ⟨key, found, outcome⟩ | ⟨next, outcome⟩
        · rw [outcome, drawn, show agent.random.secure (agent.draws + 3) = some key from found]
          rw [sendInvite_eq]
          refine .opened rfl (decide_eq_true reached) (Or.inl ?_)
          exact opened.draw key
        · rw [outcome]
          exact (endIdle (begun.drawn.setCall next) opened _ _).mono grows

theorem acceptRinging (ready : UserAgent (Sender Session)) (call : Call) {line : SdesCrypto}
    (secure : ready.config.srtp = true) (idle : ready.host.Idle keys [call.srtpKey])
    (mediaOpen : call.mediaOpen = true)
    (usable : ready.config.acceptable call.offer = some (some line)) (now : Time) :
    Tracks keys (ready.acceptRinging call now) := by
  have opened : Tracks keys (ready.setCall call) := .opened rfl mediaOpen (Or.inl idle)
  have started := opened.startMedia rfl mediaOpen
    (UserAgentConfig.remoteMediaFor_secure secure call call.offer line) rfl
  unfold UserAgent.acceptRinging
  rw [usable]
  dsimp only [Option.join]
  split
  · refine Tracks.endCall ?_ _ _
    exact started.set rfl rfl rfl rfl (⟨rfl, rfl, ⟨rfl, rfl, rfl⟩, rfl⟩)
  · exact started.set rfl rfl rfl rfl (⟨rfl, rfl, ⟨rfl, rfl, rfl⟩, rfl⟩)

theorem answer (secure : agent.config.srtp = true) (sound : agent.Sound)
    (tracks : Tracks keys agent) (id : Int32) (now : Time) :
    Tracks (keys ++ (agent.drawnKey (.answer id now)).toList)
      (agent.step (.answer id now)) := by
  have grows := sublist_append_left keys (agent.drawnKey (.answer id now)).toList
  show Tracks _ (agent.answer id now).2
  unfold UserAgent.answer
  split
  · exact tracks.mono grows
  next call found =>
    obtain ⟨present, named⟩ := Option.filter_eq_some_iff.mp found
    split
    · exact tracks.mono grows
    next free =>
      have ringing : call.outgoing = false ∧ call.state = .ringing := by simpa using free
      obtain ⟨request, key, -, -, -, usable⟩ := (sound.call _ present).rang ringing.1
      obtain ⟨line, -, rfl⟩ := UserAgentConfig.acceptable_line usable secure
      have shut (other : Call) (here : agent.current = some other) : other.mediaOpen = false := by
        cases present.symm.trans here
        rw [← Bool.not_eq_true, (sound.call _ present).opened]
        simp [ringing]
      let opening := call.withMedia agent.openMedia.1
        (agent.openMedia.2.random.u32 agent.openMedia.2.draws)
      let ready := agent.openMedia.2.drawn.setCall opening
      have opened : ready.host.Idle keys [] := (tracks.idle shut).like (.openMedia agent.host)
      have fails (last : UserAgent (Sender Session)) (next : Call)
          (idle : last.host.Idle keys []) : Tracks keys (last.failAnswer next) :=
        endIdle ((last.setCall next).respond _) idle _ _
      dsimp only
      unfold answerRinging
      dsimp only
      split
      next unopened => exact (fails ready opening opened).mono grows
      next reached =>
        have drawn : agent.drawnKey (.answer id now) =
            agent.random.secure (agent.draws + 1) := by
          refine if_pos ?_
          rw [present]
          simp [of_decide_eq_true named, ringing, reached]
        rcases ready.newSrtpKey_secure secure opening with ⟨key, found, outcome⟩ | ⟨next, outcome⟩
        · rw [outcome, drawn, show agent.random.secure (agent.draws + 1) = some key from found]
          exact acceptRinging ready.drawn { opening with srtpKey := key } secure (opened.draw key)
            (decide_eq_true reached) usable now
        · rw [outcome]
          exact (fails ready.drawn next opened).mono grows

theorem operate (secure : agent.config.srtp = true) (sound : agent.Sound)
    (tracks : Tracks keys agent) (op : Op) :
    Tracks (keys ++ (agent.drawnKey op).toList) (agent.step op) := by
  have others (answers : ∀ id now, op ≠ .answer id now)
      (calls : ∀ id target now, op ≠ .call id target now)
      (undrawn : agent.drawnKey op = none) :
      Tracks (keys ++ (agent.drawnKey op).toList) (agent.step op) := by
    rw [undrawn, Option.toList_none, append_nil]
    exact tracks.other secure sound answers calls
  cases op with
  | call id target now => exact tracks.call secure id target now
  | answer id now => exact tracks.answer secure sound id now
  | _ => exact others (fun _ _ => nofun) (fun _ _ _ => nofun) rfl

end Tracks

/-! ### Every run -/

/-- What every phone keeps to, with the keys that its calls have drawn. -/
structure Streams (config : UserAgentConfig) (keys : List Bytes)
    (agent : UserAgent (Sender Session)) : Prop where
  fixed : agent.config = config
  sound : agent.Sound
  tracks : Tracks keys agent

namespace Streams

variable {config : UserAgentConfig} {keys : List Bytes} {agent : UserAgent (Sender Session)}

theorem like (streams : Streams config keys agent) {host : Sender Session}
    (like : Sender.Like agent.host host) : Streams config keys (agent.withHost host) :=
  ⟨streams.fixed, { streams.sound with }, streams.tracks.like rfl like⟩

theorem operate (secure : config.srtp = true) (streams : Streams config keys agent) (op : Op) :
    Streams config (keys ++ (agent.drawnKey op).toList) (agent.step op) :=
  ⟨(agent.step_drives op).1.trans streams.fixed, streams.sound.step op,
    streams.tracks.operate (streams.fixed ▸ secure) streams.sound op⟩

theorem frame (streams : Streams config keys agent) (nowUs : Int) :
    Streams config keys (agent.withHost (agent.host.frame nowUs)) := by
  refine ⟨streams.fixed, { streams.sound with }, ?_⟩
  cases streams.tracks with
  | closed shut idle => exact .closed shut (idle.frame nowUs)
  | opened present mediaOpen opened => exact .opened present mediaOpen (opened.frame nowUs)

theorem sends (secure : config.srtp = true) (streams : Streams config keys agent)
    (act : SenderAct) :
    Streams config (keys ++ (agent.drawnBy act).toList) (agent.sends act) := by
  have still {after : UserAgent (Sender Session)} (same : Streams config keys after) :
      Streams config (keys ++ []) after := (append_nil keys).symm ▸ same
  cases act with
  | operate op => exact streams.operate secure op
  | receive datagram arrivalUs =>
    exact still (streams.like (.receive datagram arrivalUs agent.host))
  | frame nowUs => exact still (streams.frame nowUs)
  | captured samples => exact still (streams.like ⟨rfl, rfl, ⟨rfl, rfl, rfl⟩, rfl⟩)
  | rendered count => exact still (streams.like ⟨rfl, rfl, ⟨rfl, rfl, rfl⟩, rfl⟩)
  | allocate => exact still (streams.like ⟨rfl, rfl, ⟨rfl, rfl, rfl⟩, rfl⟩)

theorem outbounds (streams : Streams config keys agent) :
    (agent.host.outbounds.map Outbound.key).Sublist keys ∧
      ∀ outbound ∈ agent.host.outbounds, OneStream outbound.packets := by
  cases streams.tracks with
  | closed _ idle =>
    have drawn := idle.drawn
    rw [append_nil] at drawn
    exact ⟨drawn, idle.ordered⟩
  | opened _ _ opened =>
    refine ⟨?_, opened.closeMedia.ordered⟩
    have drawn := opened.closeMedia.drawn
    rwa [append_nil] at drawn

end Streams

/-- A phone that has just been created, with its media session. -/
def sendingPhone (config : UserAgentConfig) (platform : Platform Session)
    (mediaFamily : AddressFamily) (random : Random) (numbers : Nat → UInt32)
    (capture playout : SpscRing Int16) (initialDelayUs : Int) : UserAgent (Sender Session) :=
  UserAgent.create config
    { media := { platform, mediaFamily }
      session := .create capture playout initialDelayUs
      numbers } random

theorem keysDrawn_concat (past : List (UserAgent (Sender Session) × SenderAct))
    (agent : UserAgent (Sender Session)) (act : SenderAct) :
    keysDrawn (past ++ [(agent, act)]) = keysDrawn past ++ (agent.drawnBy act).toList := by
  unfold keysDrawn
  rw [filterMap_append]
  cases drawn : agent.drawnBy act <;> simp [drawn]

section Runs

variable (config : UserAgentConfig) (platform : Platform Session) (mediaFamily : AddressFamily)
  (random : Random) (numbers : Nat → UInt32) (capture playout : SpscRing Int16)
  (initialDelayUs : Int)

theorem Streams.run (secure : config.srtp = true) (acts : List SenderAct) :
    Streams config
      (keysDrawn (moments UserAgent.sends (sendingPhone config platform mediaFamily random numbers
        capture playout initialDelayUs) acts))
      (KetPhone.run UserAgent.sends (sendingPhone config platform mediaFamily random numbers
        capture playout initialDelayUs) acts) := by
  refine moments_keep (fun past agent => Streams config (keysDrawn past) agent)
    ⟨rfl, UserAgent.Sound.create _ _ _, ?_⟩ (fun past agent act streams => ?_) acts
  · refine .closed (fun _ (present : none = some _) => nomatch present) ⟨rfl, ⟨rfl, rfl⟩, ?_, ?_⟩
    · exact List.Sublist.refl []
    · exact fun _ member => absurd member not_mem_nil
  · rw [keysDrawn_concat]
    exact streams.sends secure act

/-- In every run with SRTP whose calls get different keys from the system generator, there is one
outbound context for a key at most, and the packets that it protects come from one source and have
consecutive sequence numbers. -/
theorem keystream_used_once (secure : config.srtp = true) (acts : List SenderAct)
    (fresh : (keysDrawn (moments UserAgent.sends (sendingPhone config platform mediaFamily random
      numbers capture playout initialDelayUs) acts)).Nodup) :
    let outbounds := (run UserAgent.sends (sendingPhone config platform mediaFamily random numbers
      capture playout initialDelayUs) acts).host.outbounds
    (outbounds.map Outbound.key).Nodup ∧ ∀ outbound ∈ outbounds, OneStream outbound.packets := by
  obtain ⟨drawn, ordered⟩ := (Streams.run config platform mediaFamily random numbers capture
    playout initialDelayUs secure acts).outbounds
  exact ⟨drawn.nodup fresh, ordered⟩

end Runs

/-- A generator that numbers its keys. -/
def Random.numbered : Random :=
  { Random.counting with
    secure := fun draw => some (List.replicate kSdesKeyLength (UInt8.ofNat draw))
    secure_length := fun _ _ drawn => Option.some.inj drawn ▸ List.length_replicate }

/-- A platform where everything succeeds, and protecting changes nothing. -/
def Platform.willing : Platform Unit where
  openSocket _ _ := some (some 4000)
  resolveAll _ address port := [{ family := .inet, address, port }]
  srtpCreate _ _ _ := some ()
  srtpProtect _ session packet := (some packet, session)
  srtpUnprotect _ session packet := (some packet, session)

/-- A phone with SRTP on whose source starts near the end of its sequence numbers. -/
def willingPhone : UserAgent (Sender Unit) :=
  sendingPhone
    { domain := ascii "10.0.0.1"
      extension := ascii "100"
      password := ascii "secret"
      localAddress := ascii "10.0.0.9"
      transport := ascii "TLS"
      srtp := true
      userAgent := ascii "ketphone"
      correlationHeader := [] }
    Platform.willing .inet Random.numbered (fun _ => 65535) (.create (fun _ => 0) 320)
    (.create (fun _ => 0) 320) 40000

/-- A call with two frames that is hung up, and another with one frame. -/
def twoCalls : List SenderAct :=
  [.operate (.message securedInvite 0), .operate (.answer 1 1), .frame 0, .frame 20000,
    .operate (.hangup 1 2), .operate (.message securedInvite 3), .operate (.answer 2 4),
    .frame 40000]

/-- Two calls of one phone have a context each, and count their packets. -/
theorem twoCalls_keystreams :
    let outbounds := (run UserAgent.sends willingPhone twoCalls).host.outbounds
    outbounds.map (fun outbound => outbound.packets.length) = [2, 1] ∧
      (outbounds.map Outbound.key).Nodup ∧
        ∀ outbound ∈ outbounds, OneStream outbound.packets := by
  have fresh : (keysDrawn (moments UserAgent.sends willingPhone twoCalls)).Nodup := by
    decide +kernel
  exact ⟨by decide +kernel, keystream_used_once _ _ _ _ _ _ _ _ rfl _ fresh⟩

end KetPhone.Core
