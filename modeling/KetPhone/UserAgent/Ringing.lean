/-
This file asks whether one SIP call rings at most once. The agent recognises a
retransmitted INVITE and a re-INVITE by the Call-ID of the call it has, and keeps
nothing of a call that is over. An INVITE that arrives while a call is live never
rings, whatever its Call-ID; one with the Call-ID of an earlier call that arrives
while the agent is idle rings a second time.
-/

import KetPhone.UserAgent.Conduct

namespace KetPhone.Core

open Sip List UserAgent

variable {Host : Type}

/-- Tells the application of an incoming call. -/
def Action.Rings : Action → Prop
  | .emit event => event.kind = .callIncoming
  | _ => False

instance : DecidablePred Action.Rings := fun action => by
  cases action <;> simp only [Action.Rings] <;> infer_instance

/-- The Call-ID belongs to a call that the agent has or had. -/
def UserAgent.Knows (agent : UserAgent Host) (sipCallId : Bytes) : Prop :=
  ∃ outgoing id, .begin outgoing id sipCallId ∈ agent.log

/-- A datagram is an INVITE that the agent, being idle, takes for a new call. -/
structure UserAgent.Welcomes (agent : UserAgent Host) (datagram : Bytes) (request : Message) :
    Prop where
  parsed : parseMessage datagram = some request
  isRequest : request.isResponse = false
  invite : request.method = ascii "INVITE"
  addressed : UserAgent.wellAddressed request = true
  idle : agent.current = none
  running : agent.shuttingDown = false
  usable : ∃ offer key, parseAudio request.body = some offer ∧
    agent.config.acceptable offer = some key

/-- An idle agent is not sent an INVITE of an earlier call. -/
def NoLateInvite (agent : UserAgent Host) : Op → Prop
  | .message datagram _ => ∀ request, agent.Welcomes datagram request →
      ¬ agent.Knows (request.headerOr "call-id")
  | _ => True

variable [UserAgentHost Host]

/-- The operation rings only for an INVITE whose Call-ID belonged to no call before. -/
def RingsAfresh (agent : UserAgent Host) (op : Op) : Prop :=
  (∃ action ∈ agent.asked op, action.Rings) →
    ∃ datagram now request, op = .message datagram now ∧ parseMessage datagram = some request ∧
      request.method = ascii "INVITE" ∧ ¬ agent.Knows (request.headerOr "call-id")

/-! ### Which operations ring -/

theorem Action.Free.not_rings {action : Action} (free : action.Free) : ¬ action.Rings := by
  intro rings
  match action with
  | .emit event =>
    rcases free with routine | registers
    · exact routine.2 rings
    · exact nomatch rings.symm.trans registers

/-- Only an INVITE that the agent welcomes makes it ring. -/
theorem rings_only_when_welcome (agent : UserAgent Host) (op : Op) {action : Action}
    (member : action ∈ agent.asked op) (rings : action.Rings) :
    ∃ datagram now request, op = .message datagram now ∧ agent.Welcomes datagram request := by
  by_contra unwelcome
  refine asked_allowed (fun _ => Action.Free.not_rings) agent op ?_ member rings
  cases op with
  | message datagram now =>
    refine ⟨⟨fun _ _ _ _ _ _ _ => id, fun _ _ _ _ _ _ _ => id, fun _ _ _ _ _ _ _ _ _ _ _ _ => id⟩,
      fun request parsed isRequest invite addressed =>
        ⟨fun _ _ _ _ _ _ => id, fun _ _ _ _ _ _ _ _ => id, fun _ _ _ _ _ _ _ _ => id,
          fun _ _ _ _ _ _ _ => id, ?_⟩⟩
    intro offer key event idle running parsedOffer chosen _ _
    exact unwelcome
      ⟨datagram, now, request, rfl, parsed, isRequest, invite, addressed, idle, running,
      offer, key, parsedOffer, chosen⟩
  | call => exact fun _ => id
  | answer => exact fun _ _ _ _ _ => ⟨fun _ _ => id, fun _ => id⟩
  | timer => exact fun _ _ _ _ _ => id
  | _ => exact trivial

theorem UserAgent.ring_log (agent : UserAgent Host) (request : Message) (tag : Bytes)
    (offer : AudioDescription) :
    ∃ event : Event, event.kind = .callIncoming ∧
      (agent.ring request tag offer).log = agent.log ++
        [.sendSip (.response { request, status := 180, toTag := tag }),
          .begin false agent.allocateCallId.1 (request.headerOr "call-id"), .emit event] := by
  refine ⟨_, ?_, ((append_assoc _ _ _).trans (append_assoc _ _ _))⟩
  rfl

/-- An INVITE that the agent welcomes does make it ring. -/
theorem UserAgent.Welcomes.rings {agent : UserAgent Host} {datagram : Bytes} {request : Message}
    (welcomes : agent.Welcomes datagram request) (now : Time) :
    ∃ action ∈ agent.asked (.message datagram now), action.Rings := by
  obtain ⟨offer, key, parsedOffer, chosen⟩ := welcomes.usable
  have rung : agent.step (.message datagram now) =
      agent.drawn.ring request (agent.nextHex 6) offer := by
    show agent.onMessage datagram now = _
    unfold onMessage onRequest onInviteRequest sameCall
    simp only [welcomes.parsed, welcomes.isRequest, welcomes.addressed, welcomes.invite,
      welcomes.idle, welcomes.running, parsedOffer, chosen]
    rfl
  obtain ⟨event, incoming, log⟩ := agent.drawn.ring_log request (agent.nextHex 6) offer
  refine ⟨.emit event, ?_, incoming⟩
  unfold UserAgent.asked
  rw [rung, log]
  show Action.emit event ∈ (agent.log ++ _).drop agent.log.length
  rw [drop_left]
  simp

/-! ### Runs -/

theorem ringsAfresh_iff_noLateInvite (agent : UserAgent Host) (op : Op) :
    RingsAfresh agent op ↔ NoLateInvite agent op := by
  constructor
  · intro afresh
    cases op with
    | message datagram now =>
      intro request welcomes
      obtain ⟨_, _, other, ⟨⟩, parsed, -, unknown⟩ := afresh (welcomes.rings now)
      rw [welcomes.parsed, Option.some.injEq] at parsed
      exact parsed ▸ unknown
    | _ => exact trivial
  · rintro noLate ⟨action, member, rings⟩
    obtain ⟨datagram, now, request, rfl, welcomes⟩ := rings_only_when_welcome agent op member rings
    exact ⟨datagram, now, request, rfl, welcomes.parsed, welcomes.invite, noLate request welcomes⟩

/-- In a run every call rings at most once exactly when no INVITE of an earlier call reaches the
idle agent. -/
theorem rings_once_iff (config : UserAgentConfig) (host : Host) (random : Random) (ops : List Op) :
    StepsMeet UserAgent.step RingsAfresh (UserAgent.create config host random) ops ↔
      StepsMeet UserAgent.step NoLateInvite (UserAgent.create config host random) ops :=
  stepsMeet_congr (fun _ => True) (fun _ _ _ => trivial)
    (fun agent op _ => ringsAfresh_iff_noLateInvite agent op) trivial

/-- An INVITE for a call of its own. -/
def strangerInvite : Bytes :=
  ascii "INVITE sip:100@10.0.0.9:5062 SIP/2.0\r\n" ++
    ascii "Via: SIP/2.0/UDP 10.0.0.1:5060;branch=z9hG4bKs\r\n" ++
    ascii "From: <sip:101@10.0.0.1>;tag=s\r\n" ++
    ascii "To: <sip:100@10.0.0.1>\r\n" ++
    ascii "Call-ID: in-1\r\n" ++
    ascii "CSeq: 1 INVITE\r\n\r\n" ++
    ascii "v=0\r\nc=IN IP4 10.0.0.1\r\nm=audio 10000 RTP/AVP 8\r\n"

/-- The first copy of the INVITE rings, the application rejects the call, and a delayed second copy
rings again. -/
theorem rejected_rings_again :
    ¬ StepsMeet UserAgent.step RingsAfresh UserAgent.ideal
      [.message strangerInvite 0, .reject 1000000 486, .message strangerInvite 1] := by
  rintro ⟨-, -, afresh, -⟩
  obtain ⟨_, _, request, ⟨⟩, parsed, -, unknown⟩ := afresh (by decide +kernel)
  have callId : (parseMessage strangerInvite).map (·.headerOr "call-id") = some (ascii "in-1") := by
    decide +kernel
  rw [parsed, Option.map_some, Option.some.injEq] at callId
  exact unknown (callId ▸ ⟨false, 1000000, by decide +kernel⟩)

end KetPhone.Core
