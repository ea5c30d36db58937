/-
This file asks what a refused re-INVITE leaves behind. An offer that cannot be used
is refused before anything is done. A usable one is refused when media does not
start, and by then the answer has been prepared: with SRTP that counts up the SDP
version of the call, and nothing takes it back.
-/

import KetPhone.Secure
import KetPhone.UserAgent.Acknowledging

namespace KetPhone.Core

open Sip List UserAgent

variable {Host : Type}
variable {request : Message} {agent after : UserAgent Host} {datagram : Bytes}

/-- An offer that the agent can use. -/
structure UserAgentConfig.Takes (config : UserAgentConfig) (body : Bytes)
    (offer : AudioDescription) (key : Option SdesCrypto) : Prop where
  parsed : parseAudio body = some offer
  acceptable : config.acceptable offer = some key

/-- This side's SDP in the answer to a re-INVITE. -/
def UserAgentConfig.reanswer (config : UserAgentConfig) (call : Call) (offer : AudioDescription) :
    Bytes :=
  if config.srtp then (config.localSdpFor call (some offer)).1 else call.localSdp

/-- The call once that answer is prepared. -/
def UserAgentConfig.prepared (config : UserAgentConfig) (call : Call) : Call :=
  if config.srtp then { call with sdpVersion := call.sdpVersion + 1 } else call

/-- A datagram is an INVITE with the Call-ID of the call, taken as a re-INVITE. -/
structure UserAgent.Reinvites (agent : UserAgent Host) (datagram : Bytes) (request : Message)
    (call : Call) : Prop where
  parsed : parseMessage datagram = some request
  isRequest : request.isResponse = false
  invite : request.method = ascii "INVITE"
  addressed : UserAgent.wellAddressed request = true
  same : agent.sameCall request = some call
  inDialog : call.outgoing = true ∨ call.state = .confirmed

/-- Nothing changed but the host and the record of what it was asked. -/
def UserAgent.Untouched (before after : UserAgent Host) : Prop :=
  ∃ host log, after = { before with host, log }

variable [UserAgentHost Host]

/-- A datagram is answered with a response. -/
def UserAgent.AnswersWith (agent : UserAgent Host) (datagram : Bytes) (now : Time)
    (response : Response) : Prop :=
  .sendSip (.response response) ∈ agent.asked (.message datagram now)

/-- Two states answer a re-INVITE that both accept in the same way. -/
def UserAgent.AnswersAlike (first second : UserAgent Host) : Prop :=
  ∀ datagram now request call one other, first.Reinvites datagram request call →
    first.AnswersWith datagram now one → one.status = 200 →
    second.AnswersWith datagram now other → other.status = 200 →
    (Packet.response other).bytes second.config = (Packet.response one).bytes first.config

/-! ### The two refusals -/

theorem UserAgent.followReinvite_refuses (agent : UserAgent Host) (call : Call)
    (unusable : ∀ offer key, ¬ agent.config.Takes request.body offer key) :
    agent.followReinvite call request = agent.respond { request, status := 488 } := by
  unfold followReinvite
  split
  · rfl
  next offer parsed =>
    split
    · rfl
    next key acceptable =>
      have read : parseAudio request.body = some offer := by
        split at parsed
        · cases parsed
        · exact parsed
      exact absurd ⟨read, acceptable⟩ (unusable offer key)

/-- A usable re-INVITE waits for what media says. -/
theorem UserAgent.followReinvite_eq (agent : UserAgent Host) (call : Call)
    {offer : AudioDescription} {key : Option SdesCrypto}
    (takes : agent.config.Takes request.body offer key) :
    agent.followReinvite call request =
      let tried := (agent.setCall (agent.config.prepared call)).startMedia
        (agent.config.remoteMediaFor call offer key)
      if tried.1 then
        (tried.2.setCall { agent.config.prepared call with
          localSdp := agent.config.reanswer call offer }).respond
            { request, status := 200, body := agent.config.reanswer call offer }
      else tried.2.respond { request, status := 488 } := by
  have nonempty : request.body ≠ [] := by
    intro empty
    have parsed := takes.parsed
    rw [empty] at parsed
    cases parsed
  unfold followReinvite UserAgentConfig.prepared UserAgentConfig.reanswer
  rw [if_neg nonempty, takes.parsed]
  simp only [takes.acceptable]
  cases agent.config.srtp <;> rfl

/-- Media starts for the far end's offer. -/
def UserAgent.MediaStarts (agent : UserAgent Host) (call : Call) (offer : AudioDescription)
    (key : Option SdesCrypto) : Prop :=
  (UserAgentHost.startMedia (agent.config.remoteMediaFor call offer key) agent.host).1 = true

theorem UserAgent.answersWith_iff {now : Time} {response sent : Response} {media : List Action}
    (log : (agent.step (.message datagram now)).log =
      agent.log ++ media ++ [.sendSip (.response sent)])
    (silent : ∀ other, .sendSip (.response other) ∉ media) :
    agent.AnswersWith datagram now response ↔ response = sent := by
  unfold AnswersWith
  rw [asked_of_log (log.trans (append_assoc _ _ _)), mem_append, mem_singleton]
  constructor
  · rintro (early | last)
    · exact absurd early (silent response)
    · cases last
      rfl
  · rintro rfl
    exact Or.inr rfl

namespace UserAgent.Reinvites

variable {agent : UserAgent Host} {datagram : Bytes} {request : Message} {call : Call}
  {offer : AudioDescription} {key : Option SdesCrypto}

theorem step_eq (reinvites : agent.Reinvites datagram request call) (now : Time) :
    agent.step (.message datagram now) = agent.followReinvite call request :=
  agent.step_reinvite now reinvites.parsed reinvites.isRequest reinvites.invite
    reinvites.addressed reinvites.same reinvites.inDialog

theorem step_refuses (reinvites : agent.Reinvites datagram request call)
    (unusable : ∀ offer key, ¬ agent.config.Takes request.body offer key) (now : Time) :
    agent.step (.message datagram now) = agent.respond { request, status := 488 } :=
  (reinvites.step_eq now).trans (agent.followReinvite_refuses call unusable)

theorem step_starts (reinvites : agent.Reinvites datagram request call)
    (takes : agent.config.Takes request.body offer key) (starts : agent.MediaStarts call offer key)
    (now : Time) :
    ∃ host, agent.step (.message datagram now) =
      { agent with
        host
        current := some { agent.config.prepared call with
          localSdp := agent.config.reanswer call offer }
        log := agent.log ++ [.startMedia (agent.config.remoteMediaFor call offer key) true] ++
          [.sendSip (.response
            { request, status := 200, body := agent.config.reanswer call offer })] } := by
  rw [reinvites.step_eq now, agent.followReinvite_eq call takes]
  have tried : ((agent.setCall (agent.config.prepared call)).startMedia
      (agent.config.remoteMediaFor call offer key)).1 = true := starts
  dsimp only
  rw [if_pos tried, ← tried]
  exact ⟨_, rfl⟩

theorem step_fails (reinvites : agent.Reinvites datagram request call)
    (takes : agent.config.Takes request.body offer key) (fails : ¬ agent.MediaStarts call offer key)
    (now : Time) :
    ∃ host, agent.step (.message datagram now) =
      { agent with
        host
        current := some (agent.config.prepared call)
        log := agent.log ++ [.startMedia (agent.config.remoteMediaFor call offer key) false] ++
          [.sendSip (.response { request, status := 488 })] } := by
  rw [reinvites.step_eq now, agent.followReinvite_eq call takes]
  have tried : ((agent.setCall (agent.config.prepared call)).startMedia
      (agent.config.remoteMediaFor call offer key)).1 = false := Bool.eq_false_iff.mpr fails
  dsimp only
  rw [if_neg (Bool.eq_false_iff.mp tried), ← tried]
  exact ⟨_, rfl⟩

/-- A re-INVITE is accepted with the SDP of a usable offer. -/
theorem accepted (reinvites : agent.Reinvites datagram request call) {now : Time}
    {response : Response} (answers : agent.AnswersWith datagram now response)
    (success : response.status = 200) :
    ∃ offer key, agent.config.Takes request.body offer key ∧
      response = { request, status := 200, body := agent.config.reanswer call offer } := by
  have notRefused (media : List Action) (silent : ∀ other, .sendSip (.response other) ∉ media)
      (log : (agent.step (.message datagram now)).log =
        agent.log ++ media ++ [.sendSip (.response { request, status := 488 })]) : False := by
    rw [(answersWith_iff log silent).mp answers] at success
    cases success
  by_cases usable : ∃ offer key, agent.config.Takes request.body offer key
  · obtain ⟨offer, key, takes⟩ := usable
    refine ⟨offer, key, takes, ?_⟩
    by_cases starts : agent.MediaStarts call offer key
    · obtain ⟨host, equal⟩ := reinvites.step_starts takes starts now
      exact (answersWith_iff (congrArg UserAgent.log equal) (by simp)).mp answers
    · obtain ⟨host, equal⟩ := reinvites.step_fails takes starts now
      exact (notRefused _ (by simp) (congrArg UserAgent.log equal)).elim
  · have unusable (offer : AudioDescription) (key : Option SdesCrypto) :
        ¬ agent.config.Takes request.body offer key := fun takes => usable ⟨offer, key, takes⟩
    have log := congrArg UserAgent.log (reinvites.step_refuses unusable now)
    exact (notRefused [] (by simp) (by rw [log, append_nil]; rfl)).elim

omit [UserAgentHost Host] in
theorem of_untouched (reinvites : agent.Reinvites datagram request call)
    (untouched : agent.Untouched after) : after.Reinvites datagram request call := by
  obtain ⟨host, log, rfl⟩ := untouched
  exact ⟨reinvites.parsed, reinvites.isRequest, reinvites.invite, reinvites.addressed,
    reinvites.same, reinvites.inDialog⟩

end UserAgent.Reinvites

omit [UserAgentHost Host] in
theorem UserAgent.Untouched.current {before : UserAgent Host} (untouched : before.Untouched after) :
    after.current = before.current := by
  obtain ⟨host, log, rfl⟩ := untouched
  rfl

theorem UserAgent.Untouched.answersAlike {before : UserAgent Host}
    (untouched : before.Untouched after) : before.AnswersAlike after := by
  intro datagram now request call one other reinvites first success second succeeds
  obtain ⟨offer, key, takes, rfl⟩ := reinvites.accepted first success
  obtain ⟨offered, _, takesToo, rfl⟩ := (reinvites.of_untouched untouched).accepted second succeeds
  cases takes.parsed.symm.trans takesToo.parsed
  obtain ⟨host, log, rfl⟩ := untouched
  rfl

/-! ### Refusals -/

/-- The re-INVITE is refused after its answer was prepared with SRTP: the offer can be used and
media does not start. -/
def UserAgent.RefusedLate (agent : UserAgent Host) (request : Message) (call : Call) : Prop :=
  agent.config.srtp = true ∧ ∃ offer key, agent.config.Takes request.body offer key ∧
    ¬ agent.MediaStarts call offer key

theorem UserAgent.Reinvites.untouched_iff {call : Call}
    (reinvites : agent.Reinvites datagram request call) (now : Time) :
    ((∃ response, agent.AnswersWith datagram now response ∧ response.status = 488) →
        agent.Untouched (agent.step (.message datagram now))) ↔
      ¬ agent.RefusedLate request call := by
  constructor
  · rintro holds ⟨secure, offer, key, takes, fails⟩
    obtain ⟨host, equal⟩ := reinvites.step_fails takes fails now
    have untouched := holds ⟨{ request, status := 488 },
      (answersWith_iff (congrArg UserAgent.log equal) (by simp)).mpr rfl, rfl⟩
    have counted : some (agent.config.prepared call) = agent.current :=
      (congrArg UserAgent.current equal).symm.trans untouched.current
    rw [(sameCall_eq_some reinvites.same).1, Option.some.injEq,
      UserAgentConfig.prepared, if_pos secure] at counted
    have version : call.sdpVersion + 1 = call.sdpVersion := congrArg Call.sdpVersion counted
    simp at version
  · rintro inTime ⟨response, answers, refusal⟩
    by_cases usable : ∃ offer key, agent.config.Takes request.body offer key
    · obtain ⟨offer, key, takes⟩ := usable
      by_cases starts : agent.MediaStarts call offer key
      · obtain ⟨host, equal⟩ := reinvites.step_starts takes starts now
        rw [(answersWith_iff (congrArg UserAgent.log equal) (by simp)).mp answers] at refusal
        cases refusal
      · obtain ⟨host, equal⟩ := reinvites.step_fails takes starts now
        have plain : ¬ agent.config.srtp = true := fun secure =>
          inTime ⟨secure, offer, key, takes, starts⟩
        rw [UserAgentConfig.prepared, if_neg plain,
          ← (sameCall_eq_some reinvites.same).1] at equal
        exact ⟨host, _, equal⟩
    · exact ⟨_, _, reinvites.step_refuses
        (fun offer key takes => usable ⟨offer, key, takes⟩) now⟩

/-- In every state of a run a refused re-INVITE changes nothing, and what is accepted next is
answered as without it, exactly when it was not refused after its answer was prepared with SRTP. -/
theorem refused_reinvite_untouched_iff (config : UserAgentConfig) (host : Host) (random : Random)
    (ops : List Op) (datagram : Bytes) (now : Time) (request : Message) (call : Call)
    (reinvites : (run UserAgent.step (UserAgent.create config host random) ops).Reinvites datagram
      request call) :
    let agent := run UserAgent.step (UserAgent.create config host random) ops
    let after := agent.step (.message datagram now)
    ((∃ response, agent.AnswersWith datagram now response ∧ response.status = 488) →
        agent.Untouched after ∧ agent.AnswersAlike after) ↔
      ¬ agent.RefusedLate request call := by
  intro agent after
  rw [← reinvites.untouched_iff now]
  exact ⟨fun holds refused => (holds refused).1,
    fun holds refused => ⟨holds refused, (holds refused).answersAlike⟩⟩

omit [UserAgentHost Host] in
theorem UserAgent.exists_reinvites (parsed : parseMessage datagram = some request)
    (asks : request.isResponse = false ∧ request.method = ascii "INVITE" ∧
      wellAddressed request = true) (inDialog : ((agent.sameCall request).any fun call =>
      call.outgoing || call.state = .confirmed) = true) :
    ∃ call, agent.Reinvites datagram request call := by
  cases same : agent.sameCall request with
  | none =>
    rw [same] at inDialog
    cases inDialog
  | some call =>
    rw [same, Option.any_some, Bool.or_eq_true, decide_eq_true_iff] at inDialog
    exact ⟨call, parsed, asks.1, asks.2.1, asks.2.2, same, inDialog⟩

/-- A re-INVITE without an offer, in the first call that `UserAgent.ideal` makes. -/
def emptyReinvite : Bytes :=
  ascii "INVITE sip:100@10.0.0.9:5062 SIP/2.0\r\n" ++
    ascii "Via: SIP/2.0/UDP 10.0.0.1:5060;branch=z9hG4bKr\r\n" ++
    ascii "From: <sip:101@10.0.0.1>;tag=s\r\n" ++
    ascii "To: <sip:100@10.0.0.1>;tag=3\r\n" ++
    ascii "Call-ID: 2@ketphone\r\n" ++
    ascii "CSeq: 1 INVITE\r\n\r\n"

/-- `UserAgent.ideal` in its first call. -/
def connected : UserAgent IdealHost :=
  run UserAgent.step UserAgent.ideal [.call 1 (ascii "101") 0, .message dialledAccepted 1]

/-- A re-INVITE without an offer is refused and changes nothing. -/
theorem emptyReinvite_untouched :
    connected.AnswersWith emptyReinvite 2
        { request := (parseMessage emptyReinvite).getD {}, status := 488 } ∧
      connected.Untouched (connected.step (.message emptyReinvite 2)) ∧
      connected.AnswersAlike (connected.step (.message emptyReinvite 2)) := by
  have refused : connected.AnswersWith emptyReinvite 2
      { request := (parseMessage emptyReinvite).getD {}, status := 488 } := by
    unfold UserAgent.AnswersWith
    decide +kernel
  obtain ⟨call, reinvites⟩ : ∃ call, connected.Reinvites emptyReinvite
      ((parseMessage emptyReinvite).getD {}) call :=
    exists_reinvites (by decide +kernel) (by decide +kernel) (by decide +kernel)
  refine ⟨refused, (refused_reinvite_untouched_iff _ _ _
    [.call 1 (ascii "101") 0, .message dialledAccepted 1] emptyReinvite 2 _ call
    reinvites).mpr ?_ ⟨_, refused, rfl⟩⟩
  rintro ⟨secure, -⟩
  exact absurd secure (by decide +kernel)

/-! ### Keys that libsrtp refuses -/

/-- A platform whose libsrtp refuses keys that begin with a certain byte. -/
def Platform.choosy : Platform Unit where
  openSocket _ _ := some (some 4000)
  resolveAll _ _ _ := []
  srtpCreate _ _ key := if key.head? = some 255 then none else some ()
  srtpProtect _ session packet := (some packet, session)
  srtpUnprotect _ session packet := (some packet, session)

/-- The ACK in the call of `securedInvite`. -/
def securedAck : Bytes :=
  ascii "ACK sip:100@10.0.0.9 SIP/2.0\r\n" ++
    ascii "Via: SIP/2.0/TLS 10.0.0.1:5061;branch=z9hG4bKt\r\n" ++
    ascii "From: <sip:101@10.0.0.1>;tag=s\r\n" ++
    ascii "To: <sip:100@10.0.0.1>;tag=2\r\n" ++
    ascii "Call-ID: s@10.0.0.1\r\n" ++
    ascii "CSeq: 1 ACK\r\n\r\n"

/-- A re-INVITE in that call with another key. -/
def securedReinvite : Bytes :=
  ascii "INVITE sip:100@10.0.0.9 SIP/2.0\r\n" ++
    ascii "Via: SIP/2.0/TLS 10.0.0.1:5061;branch=z9hG4bKu\r\n" ++
    ascii "From: <sip:101@10.0.0.1>;tag=s\r\n" ++
    ascii "To: <sip:100@10.0.0.1>;tag=2\r\n" ++
    ascii "Call-ID: s@10.0.0.1\r\n" ++
    ascii "CSeq: 2 INVITE\r\n\r\n" ++
    ascii "v=0\r\nc=IN IP4 10.0.0.1\r\nm=audio 10000 RTP/SAVP 8\r\n" ++
    ascii "a=crypto:1 AES_CM_128_HMAC_SHA1_80 inline:" ++ ascii "////////////////////" ++
    ascii "////////////////////\r\n"

/-- A phone with SRTP on in a call. -/
def securedPhone : UserAgent (Engine Unit) :=
  run UserAgent.step
    (phone
      { domain := ascii "10.0.0.1"
        extension := ascii "100"
        password := ascii "secret"
        localAddress := ascii "10.0.0.9"
        transport := ascii "TLS"
        srtp := true
        userAgent := ascii "ketphone"
        correlationHeader := [] } Platform.choosy .inet Random.counting)
    [.message securedInvite 0, .answer 1 1, .message securedAck 2]

/-- The phone refuses a key that libsrtp does not take, and counts up its SDP version. -/
theorem securedPhone_touched :
    ∃ request call, securedPhone.Reinvites securedReinvite request call ∧
      ¬ ((∃ response, securedPhone.AnswersWith securedReinvite 3 response ∧
            response.status = 488) →
          securedPhone.Untouched (securedPhone.step (.message securedReinvite 3)) ∧
            securedPhone.AnswersAlike (securedPhone.step (.message securedReinvite 3))) := by
  obtain ⟨call, reinvites⟩ : ∃ call, securedPhone.Reinvites securedReinvite
      ((parseMessage securedReinvite).getD {}) call :=
    exists_reinvites (by decide +kernel) (by decide +kernel) (by decide +kernel)
  refine ⟨_, call, reinvites, fun holds => ?_⟩
  have refused : securedPhone.AnswersWith securedReinvite 3
      { request := (parseMessage securedReinvite).getD {}, status := 488 } := by
    unfold UserAgent.AnswersWith
    decide +kernel
  have counted :
      (securedPhone.step (.message securedReinvite 3)).current.map Call.sdpVersion ≠
        securedPhone.current.map Call.sdpVersion := by decide +kernel
  exact counted (congrArg (Option.map Call.sdpVersion) (holds ⟨_, refused, rfl⟩).1.current)

end KetPhone.Core
