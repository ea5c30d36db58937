/-
This file follows the SRTP key of a call. A call with open media has sent an SDP
with its key, and every SDP that leaves the agent is one that `local_sdp_for` built.
The far end's key comes from the crypto line that the answer names, whichever side
gave the answer. Without SRTP neither side's key appears.
-/

import KetPhone.UserAgent.Changing
import KetPhone.UserAgent.Conduct

namespace KetPhone.Core

open Sip List OrderedMap UserAgent

variable {Host : Type}

/-! ### What the agent says about itself -/

/-- The Call-ID of a message of this side. -/
def Packet.callId : Packet → Bytes
  | .request content _ => content.callId
  | .response content => content.request.headerOr "call-id"
  | .ackForFailure context _ => context.sipCallId

/-- A body that the agent may send. -/
def UserAgentConfig.Fills (config : UserAgentConfig) (body : Bytes) : Prop :=
  body = [] ∨ ∃ answering key, config.Describes answering key body

/-- An offer that suits this side. -/
def UserAgentConfig.Suits (config : UserAgentConfig) (request : Message) : Prop :=
  ∃ offer key, parseAudio request.body = some offer ∧ config.acceptable offer = some key

/-- What a call keeps to, given what was sent. -/
structure Call.Sound (config : UserAgentConfig) (log : List Action) (call : Call) : Prop where
  dialled : call.outgoing = true ↔ call.inviteBranch ≠ []
  opened : call.mediaOpen = true ↔ call.outgoing = true ∨ call.state ≠ .ringing
  rang : call.outgoing = false → ∃ request key, call.invite = some request ∧
    call.sipCallId = request.headerOr "call-id" ∧ parseAudio request.body = some call.offer ∧
      config.acceptable call.offer = some key
  described : call.mediaOpen = true →
    ∃ answering, config.Describes answering call.srtpKey call.localSdp
  told : call.mediaOpen = true → ∃ packet answering, .sendSip packet ∈ log ∧
    packet.callId = call.sipCallId ∧ config.Describes answering call.srtpKey packet.body
  fills : ∀ response, call.lastResponse = some response → config.Fills response.body
  suits : ∀ response, call.lastResponse = some response → response.Accepts →
    config.Suits response.request

structure UserAgent.Sound (agent : UserAgent Host) : Prop where
  call : ∀ call, agent.current = some call → call.Sound agent.config agent.log
  sent : ∀ packet, .sendSip packet ∈ agent.log → agent.config.Fills packet.body
  pending : ∀ transaction ∈ agent.transactions.values,
    agent.config.Fills transaction.packet.body

namespace Call.Sound

variable {config : UserAgentConfig} {log : List Action} {call next : Call}

theorem grows (sound : call.Sound config log) (added : List Action) :
    call.Sound config (log ++ added) :=
  { sound with
    told := fun opened =>
      let ⟨packet, answering, sent, rest⟩ := sound.told opened
      ⟨packet, answering, mem_append_left _ sent, rest⟩ }

theorem becomes (sound : call.Sound config log) (becomes : call.Becomes config next) :
    next.Sound config log where
  dialled := by
    rw [becomes.outgoing, becomes.inviteBranch]
    exact sound.dialled
  opened := by
    rw [becomes.mediaOpen, becomes.outgoing]
    rcases becomes.state with same | ⟨confirmed, early⟩
    · rw [same]
      exact sound.opened
    · have settled : call.outgoing = true ∨ call.state ≠ .ringing := by
        rcases early with sent | answering
        · exact Or.inl (sound.dialled.mpr sent)
        · exact Or.inr (by simp [answering])
      exact iff_of_true (sound.opened.mpr settled) (Or.inr (by simp [confirmed]))
  rang := by
    rw [becomes.outgoing, becomes.invite, becomes.sipCallId, becomes.offer]
    exact sound.rang
  described := by
    rw [becomes.mediaOpen]
    intro opened
    rcases becomes.sdp with same | described
    · rw [becomes.srtpKey, same]
      exact sound.described opened
    · exact described
  told := by
    rw [becomes.mediaOpen, becomes.sipCallId, becomes.srtpKey]
    exact sound.told
  fills := by
    rw [becomes.lastResponse]
    exact sound.fills
  suits := by
    rw [becomes.lastResponse]
    exact sound.suits

theorem ring {request : Message} {offer : AudioDescription} {key : Option SdesCrypto}
    (parsed : parseAudio request.body = some offer) (usable : config.acceptable offer = some key)
    (id : Int32) (tag : Bytes) :
    (incomingCall config id request tag offer).Sound config log where
  dialled := ⟨nofun, fun sent => absurd rfl sent⟩
  opened := ⟨nofun, fun settled => settled.elim nofun fun other => absurd rfl other⟩
  rang _ := ⟨request, key, rfl, rfl, parsed, usable⟩
  described := nofun
  told := nofun
  fills := by
    rintro _ ⟨⟩
    exact Or.inl rfl
  suits := by
    rintro _ ⟨⟩ accepts
    exact absurd accepts (Action.routine_response 180 rfl (by decide))

theorem dial {branch : Bytes} (named : branch ≠ []) (dialling : call.Dialling)
    (described : config.Describes none call.srtpKey call.localSdp)
    (sent : .sendSip (.request (inviteRequest call []) branch) ∈ log) :
    (call.invited branch).Sound config log where
  dialled := iff_of_true dialling.outgoing named
  opened := iff_of_true dialling.mediaOpen (Or.inl dialling.outgoing)
  rang incoming := nomatch dialling.outgoing.symm.trans incoming
  described _ := ⟨none, described⟩
  told _ := ⟨_, none, sent, rfl, described⟩
  fills _ kept := nomatch dialling.lastResponse.symm.trans kept
  suits _ kept := nomatch dialling.lastResponse.symm.trans kept

theorem invite (sound : call.Sound config log) {branch : Bytes} (named : branch ≠ [])
    (sent : call.inviteBranch ≠ []) :
    ({ call with authenticated := true }.invited branch).Sound config log :=
  { sound with dialled := iff_of_true (sound.dialled.mpr sent) named }

theorem accept (sound : call.Sound config log) {response : Response}
    (ringing : call.outgoing = false ∧ call.state = .ringing)
    (accepts : call.Accepted config next response) (sent : .sendSip (.response response) ∈ log) :
    next.Sound config log := by
  obtain ⟨request, key, invited, named, parsed, usable⟩ := sound.rang ringing.1
  have answers : response.request = request := by
    rw [accepts.responds]
    show call.invite.getD {} = request
    rw [invited, Option.getD_some]
  have described : config.Describes (some call.offer) next.srtpKey response.body :=
    accepts.described
  refine ⟨?_, iff_of_true accepts.mediaOpen (Or.inr (by simp [accepts.state])), fun _ => ?_,
    fun _ => ⟨some call.offer, accepts.localSdp ▸ described⟩,
    fun _ => ⟨_, some call.offer, sent, ?_, described⟩, fun stored kept => ?_,
    fun stored kept _ => ?_⟩
  · rw [accepts.outgoing, accepts.inviteBranch]
    exact sound.dialled
  · rw [accepts.invite, accepts.sipCallId, accepts.offer]
    exact ⟨request, key, invited, named, parsed, usable⟩
  · rw [accepts.sipCallId, named]
    show response.request.headerOr "call-id" = _
    rw [answers]
  · cases accepts.lastResponse.symm.trans kept
    exact Or.inr ⟨_, _, described⟩
  · cases accepts.lastResponse.symm.trans kept
    exact ⟨call.offer, key, answers ▸ parsed, usable⟩

end Call.Sound

section Agents

variable {before after : UserAgent Host}

/-! ### Bodies -/

/-- An action that sends no body but one that the agent may send. -/
def Action.Fills (config : UserAgentConfig) : Action → Prop
  | .sendSip packet => config.Fills packet.body
  | _ => True

theorem Call.fills_farewell (config : UserAgentConfig) (call : Call) (reason : EndReason)
    (status : Int) : ∀ action ∈ call.farewell reason status, action.Fills config := by
  unfold farewell
  cases call.mediaOpen <;> simp [Action.Fills]

/-- A call inside its dialog has an SDP. -/
theorem UserAgent.Sound.described {agent : UserAgent Host} (sound : agent.Sound) {call : Call}
    (present : agent.current = some call)
    (settled : call.outgoing = true ∨ call.state = .confirmed) :
    agent.config.Fills call.localSdp := by
  have whole := sound.call call present
  obtain ⟨answering, described⟩ :=
    whole.described (whole.opened.mpr (settled.imp_right fun confirmed => by simp [confirmed]))
  exact Or.inr ⟨answering, _, described⟩

theorem Transaction.bodyless_of_register {transaction : Transaction}
    (register : transaction.onFinal.isRegister = true) : transaction.request.body = [] := by
  have fits := transaction.fits
  cases handler : transaction.onFinal with
  | register expires authenticated =>
    rw [handler] at fits
    exact fits.2.2.2
  | invite context => simp [handler, FinalHandler.isRegister] at register
  | ignore => simp [handler, FinalHandler.isRegister] at register

variable [UserAgentHost Host] {cause : Cause} {added : List Action}

theorem CallTurn.fills (turn : CallTurn cause added before after) (sound : before.Sound) :
    ∀ action ∈ added, action.Fills before.config := by
  have ends (call : Call) (reason : EndReason) (status : Int) :=
    call.fills_farewell before.config reason status
  have ignored {transaction : Transaction} {request : Request} {branch : Bytes}
      (begun : transaction.Begun request branch .ignore) :
      (Action.sendSip transaction.packet).Fills before.config := by
    have fits := transaction.fits
    rw [begun.onFinal] at fits
    exact Or.inl fits.2.2
  have acks (ack : Ack) : (Action.sendSip ack.packet).Fills before.config := Or.inl ack.bodyless
  have media {media : List Action}
      (refused : ∀ action ∈ media, action.isMedia = true) :
      ∀ action ∈ media, action.Fills before.config := by
    intro action member
    match action, refused action member with
    | .startMedia _ _, _ | .openMedia _, _ | .closeMedia, _ => exact trivial
  have empty {response : Response} (bodyless : response.body = []) :
      (Action.sendSip (.response response)).Fills before.config := Or.inl bodyless
  cases turn with
  | rests | proceeds | concludes | givesUp => exact nofun
  | replies reply =>
    refine forall_mem_singleton.mpr ?_
    cases reply with
    | other _ _ bodyless | refuses _ _ _ bodyless | declines _ _ _ _ bodyless =>
      exact Or.inl bodyless
    | again present _ _ kept => exact (sound.call _ present).fills _ kept
  | acknowledges => exact forall_mem_singleton.mpr (acks _)
  | progresses _ _ _ _ _ _ told =>
    rcases told with rfl | ⟨event, -, -, rfl⟩
    · exact nofun
    · exact forall_mem_singleton.mpr trivial
  | cancelsLate _ _ _ _ _ _ _ _ begun | cancels _ _ _ _ _ begun =>
    exact forall_mem_singleton.mpr (ignored begun)
  | forgets _ _ _ sent =>
    rcases sent with rfl | ⟨recipient, rfl⟩
    · exact nofun
    · exact forall_mem_singleton.mpr (Or.inl rfl)
  | parts _ _ _ _ _ begun =>
    exact forall_mem_cons.mpr ⟨acks _, forall_mem_singleton.mpr (ignored begun)⟩
  | fails _ _ _ sent =>
    refine forall_mem_append.mpr ⟨?_, ends _ _ _⟩
    rcases sent with rfl | ⟨recipient, rfl⟩
    · exact nofun
    · exact forall_mem_singleton.mpr (Or.inl rfl)
  | retries _ invites own _ _ _ begun =>
    obtain ⟨present, -, branch⟩ := callOf_eq_some own
    have whole := sound.call _ present
    have outgoing := whole.dialled.mpr (branch ▸ Transaction.branch_ne_nil invites)
    refine forall_mem_cons.mpr ⟨Or.inl rfl, forall_mem_singleton.mpr ?_⟩
    rw [begun.packet]
    exact sound.described present (Or.inl outgoing)
  | connects =>
    exact forall_mem_cons.mpr ⟨acks _, forall_mem_cons.mpr ⟨trivial, forall_mem_singleton.mpr
      trivial⟩⟩
  | drops _ _ _ _ _ refused begun =>
    refine forall_mem_append.mpr ⟨forall_mem_cons.mpr ⟨acks _, media ?_⟩,
      forall_mem_cons.mpr ⟨ignored begun, ends _ _ _⟩⟩
    rcases refused with rfl | ⟨remote, rfl⟩ <;> simp
  | dialFails =>
    exact forall_mem_cons.mpr ⟨trivial, forall_mem_cons.mpr ⟨trivial, ends _ _ _⟩⟩
  | dials _ _ _ _ begun _ _ described =>
    refine forall_mem_cons.mpr ⟨trivial, forall_mem_cons.mpr ⟨trivial,
      forall_mem_singleton.mpr ?_⟩⟩
    rw [begun.packet]
    exact Or.inr ⟨none, _, described⟩
  | rings =>
    exact forall_mem_cons.mpr ⟨Or.inl rfl, forall_mem_cons.mpr ⟨trivial, forall_mem_singleton.mpr
      trivial⟩⟩
  | reinvites _ same settled _ offered outcome =>
    refine forall_mem_cons.mpr ⟨trivial, forall_mem_singleton.mpr ?_⟩
    obtain ⟨offer, key, -, -, -, sdp⟩ := offered
    rcases outcome with ⟨-, accepts⟩ | ⟨-, -, bodyless, -⟩
    · rw [accepts]
      rcases sdp with rfl | described
      · exact sound.described (sameCall_eq_some same).1 settled
      · exact Or.inr ⟨_, _, described⟩
    · exact Or.inl bodyless
  | confirms => exact forall_mem_singleton.mpr trivial
  | hearsBye | rejects => exact forall_mem_cons.mpr ⟨empty rfl, ends _ _ _⟩
  | hearsCancel =>
    exact forall_mem_cons.mpr ⟨empty rfl, forall_mem_cons.mpr ⟨empty rfl, ends _ _ _⟩⟩
  | answerFails _ _ _ refused =>
    refine forall_mem_append.mpr ⟨forall_mem_cons.mpr ⟨trivial, media ?_⟩,
      forall_mem_cons.mpr ⟨empty rfl, ends _ _ _⟩⟩
    rcases refused with rfl | ⟨-, remote, rfl⟩ <;> simp
  | accepts _ _ _ _ _ _ _ described =>
    exact forall_mem_cons.mpr ⟨trivial, forall_mem_cons.mpr ⟨trivial, forall_mem_singleton.mpr
      (Or.inr ⟨_, _, described⟩)⟩⟩
  | resends present _ sent =>
    rcases sent with rfl | ⟨response, kept, rfl⟩
    · exact nofun
    · exact forall_mem_singleton.mpr ((sound.call _ present).fills _ kept)
  | abandons => exact ends _ _ _
  | saysBye _ _ begun => exact forall_mem_cons.mpr ⟨ignored begun, ends _ _ _⟩

theorem CallStep.fills (step : CallStep cause added before after) (sound : before.Sound) :
    (∀ action ∈ added, action.Fills before.config) ∧
      ∀ transaction ∈ after.transactions.values,
        before.config.Fills transaction.packet.body := by
  cases step with
  | registers side log =>
    obtain ⟨grown, equal, concerns⟩ := side.frame.log
    cases append_cancel_left (log.symm.trans equal)
    refine ⟨fun action member => ?_, fun transaction member => ?_⟩
    · match action, concerns action member with
      | .sendSip packet, holds => exact Or.inl holds.2
      | .emit _, _ => exact trivial
    · cases register : transaction.onFinal.isRegister with
      | true => exact Or.inl (Transaction.bodyless_of_register register)
      | false =>
        exact sound.pending transaction (mem_values_of_half false side.frame.calls register member)
  | calls turn =>
    have fills := turn.fills sound
    refine ⟨fills, fun transaction member => ?_⟩
    rcases turn.reworks.held transaction member with ⟨old, pending, same⟩ | sent
    · exact same ▸ sound.pending old pending
    · exact fills _ sent

theorem CallStep.sound (step : CallStep cause added before after) (sound : before.Sound) :
    after.Sound := by
  obtain ⟨fills, pending⟩ := step.fills sound
  refine ⟨fun call present => ?_, fun packet member => ?_, ?_⟩
  · rw [step.config, step.log]
    cases step.comes present with
    | set here becomes => exact ((sound.call _ here).grows added).becomes becomes
    | ring id tag parsed usable => exact Call.Sound.ring parsed usable id tag
    | dial named dialling described sent =>
      exact Call.Sound.dial named dialling described (mem_append_right _ sent)
    | invite named here sent => exact ((sound.call _ here).grows added).invite named sent
    | accept _ here ringing accepts sent =>
      exact ((sound.call _ here).grows added).accept ringing accepts (mem_append_right _ sent)
  · rw [step.config]
    rw [step.log, mem_append] at member
    exact member.elim (sound.sent packet) (fills _)
  · rw [step.config]
    exact pending

/-- Requests are sent again as they are. -/
theorem UserAgent.Sound.retransmit (agent : UserAgent Host) (now : Time) (sound : agent.Sound) :
    (agent.retransmit now).Sound := by
  obtain ⟨host, equal⟩ := agent.retransmit_eq now
  rw [equal]
  refine ⟨fun call present => (sound.call call present).grows _, fun packet member => ?_,
    fun transaction member => ?_⟩
  · rcases mem_append.mp member with old | again
    · exact sound.sent packet old
    · obtain ⟨transaction, due, same⟩ := mem_map.mp again
      cases same
      exact sound.pending transaction (mem_of_mem_filter due)
  · obtain ⟨old, pending, rfl⟩ := mem_map.mp member
    rw [old.backOff_packet now]
    exact sound.pending old pending

theorem UserAgent.Sound.step {agent : UserAgent Host} (sound : agent.Sound) (op : Op) :
    (agent.step op).Sound :=
  step_keeps UserAgent.Sound.retransmit (fun step => step.sound) sound op

omit [UserAgentHost Host] in
theorem UserAgent.Sound.create (config : UserAgentConfig) (host : Host) (random : Random) :
    (UserAgent.create config host random).Sound :=
  ⟨fun _ (present : none = some _) => (nomatch present), fun _ member => (nomatch member),
    fun _ member => (nomatch member)⟩

/-! ### Crypto lines -/

/-- An SDP of this side with the crypto line of a key. -/
def Announces (sdp : Bytes) (tag : UInt32) (key : Bytes) : Prop :=
  ∃ address port session version savp,
    sdp = buildAudioSdp address port session version (some { savp, tag, key })

/-- Nothing, or an SDP of this side without a crypto line. -/
def Unkeyed (body : Bytes) : Prop :=
  body = [] ∨ ∃ address port session version, body = buildAudioSdp address port session version none

theorem UserAgentConfig.localSdpFor_eq (config : UserAgentConfig) (call : Call)
    (answering : Option AudioDescription) :
    (config.localSdpFor call answering).1 = buildAudioSdp config.localAddress call.mediaPort
      call.sdpSession call.sdpVersion (config.localCryptoFor call answering) := rfl

theorem UserAgentConfig.localCryptoFor_secure {config : UserAgentConfig}
    (secure : config.srtp = true) (call : Call) (answering : Option AudioDescription) :
    ∃ savp tag, config.localCryptoFor call answering = some { savp, tag, key := call.srtpKey } := by
  unfold UserAgentConfig.localCryptoFor
  rw [if_pos secure]
  split
  · exact ⟨_, _, rfl⟩
  · split <;> exact ⟨_, _, rfl⟩

theorem UserAgentConfig.localCryptoFor_chosen {config : UserAgentConfig}
    (secure : config.srtp = true) (call : Call) {offer : AudioDescription} {line : SdesCrypto}
    (chosen : config.acceptable offer = some (some line)) :
    config.localCryptoFor call (some offer) =
      some { savp := offer.savp, tag := line.tag, key := call.srtpKey } := by
  unfold UserAgentConfig.localCryptoFor
  rw [if_pos secure]
  simp only [chosen]

theorem UserAgentConfig.localCryptoFor_plain {config : UserAgentConfig}
    (plain : config.srtp = false) (call : Call) (answering : Option AudioDescription) :
    config.localCryptoFor call answering = none := by
  unfold UserAgentConfig.localCryptoFor
  rw [if_neg (Bool.eq_false_iff.mp plain)]

namespace UserAgentConfig.Describes

variable {config : UserAgentConfig} {answering : Option AudioDescription} {key sdp : Bytes}

theorem announces (described : config.Describes answering key sdp) (secure : config.srtp = true) :
    ∃ tag, Announces sdp tag key := by
  obtain ⟨call, same, equal⟩ := described
  obtain ⟨savp, tag, crypto⟩ := localCryptoFor_secure secure call answering
  refine ⟨tag, config.localAddress, call.mediaPort, call.sdpSession, call.sdpVersion, savp, ?_⟩
  rw [equal, localSdpFor_eq, crypto, same]

theorem announces_chosen {offer : AudioDescription} {line : SdesCrypto}
    (described : config.Describes (some offer) key sdp) (secure : config.srtp = true)
    (chosen : config.acceptable offer = some (some line)) : Announces sdp line.tag key := by
  obtain ⟨call, same, equal⟩ := described
  refine ⟨config.localAddress, call.mediaPort, call.sdpSession, call.sdpVersion, offer.savp, ?_⟩
  rw [equal, localSdpFor_eq, localCryptoFor_chosen secure call chosen, same]

end UserAgentConfig.Describes

theorem UserAgentConfig.Fills.unkeyed {config : UserAgentConfig} {body : Bytes}
    (fills : config.Fills body) (plain : config.srtp = false) : Unkeyed body := by
  rcases fills with empty | ⟨answering, key, call, -, equal⟩
  · exact Or.inl empty
  · refine Or.inr ⟨config.localAddress, call.mediaPort, call.sdpSession, call.sdpVersion, ?_⟩
    rw [equal, localSdpFor_eq, localCryptoFor_plain plain]

/-! ### What media starts with -/

/-- What the agent starts media with, and when. -/
inductive Starts (agent : UserAgent Host) : Op → RemoteMedia → Bool → Prop
  | answer {id : Int32} {now : Time} {call : Call} {started : Bool} (own : Bytes)
      (present : agent.current = some call)
      (ringing : call.outgoing = false ∧ call.state = .ringing)
      (accepted : started = true → ∃ body, agent.config.Describes (some call.offer) own body ∧
        .sendSip (.response { UserAgent.inviteResponse call 200 with body }) ∈
          agent.asked (.answer id now))
      (refused : started = false → (agent.step (.answer id now)).current = none ∧
        ∀ packet, .sendSip packet ∈ agent.asked (.answer id now) → packet.body = []) :
    Starts agent (.answer id now) (agent.config.remoteOf call own) started
  | accepted {datagram : Bytes} {now : Time} {response : Message} {transaction : Transaction}
      {context : InviteContext} {call : Call} {answer : AudioDescription}
      {key : Option SdesCrypto} {started : Bool}
      (answers : agent.Answers datagram response transaction)
      (handler : transaction.onFinal = .invite context)
      (success : UserAgent.isSuccess response.status = true)
      (found : agent.callOf context = some call)
      (usable : agent.config.usableAnswer response.body = some (answer, key)) :
    Starts agent (.message datagram now) (agent.config.remoteMediaFor call answer key) started
  | reinvite {datagram : Bytes} {now : Time} {request : Message} {call : Call}
      {offer : AudioDescription} {key : Option SdesCrypto} {started : Bool}
      (arrived : parseMessage datagram = some request) (isRequest : request.isResponse = false)
      (invite : request.method = ascii "INVITE")
      (addressed : UserAgent.wellAddressed request = true)
      (found : agent.sameCall request = some call)
      (inDialog : call.outgoing = true ∨ call.state = .confirmed)
      (parsed : parseAudio request.body = some offer)
      (usable : agent.config.acceptable offer = some key) :
    Starts agent (.message datagram now) (agent.config.remoteMediaFor call offer key) started

theorem UserAgent.asked_reinvite {agent : UserAgent Host} {datagram : Bytes} {request : Message}
    {call : Call} {now : Time} (arrived : parseMessage datagram = some request)
    (isRequest : request.isResponse = false) (invite : request.method = ascii "INVITE")
    (addressed : wellAddressed request = true)
    (found : agent.sameCall request = some call)
    (inDialog : call.outgoing = true ∨ call.state = .confirmed) {added : List Action}
    (log : (agent.followReinvite call request).log = agent.log ++ added) :
    agent.asked (.message datagram now) = added := by
  unfold asked
  rw [agent.step_reinvite now arrived isRequest invite addressed found inDialog, log,
    drop_left]

theorem starts_of_answer {agent : UserAgent Host} {id : Int32} {now : Time} {remote : RemoteMedia}
    {started : Bool} (member : .startMedia remote started ∈ agent.asked (.answer id now)) :
    Starts agent (.answer id now) remote started := by
  obtain ⟨added, turn⟩ := CallTurn.answer agent id now
  have asked : agent.asked (.answer id now) = added := asked_of_log (CallStep.calls turn).log
  have quiet (call : Call) (reason : EndReason) (status : Int) :
      .startMedia remote started ∉ call.farewell reason status :=
    fun member => call.routine_farewell reason status _ member
  rw [asked] at member
  cases turn with
  | @answerFails _ _ call _ _ _ _ present incoming ringing refused does answers offered =>
    cases answers
    rcases refused with rfl | ⟨-, remote, rfl⟩
    · simp [quiet] at member
    obtain ⟨rfl, rfl⟩ : _ = remote ∧ started = false := by simpa [quiet] using member
    obtain ⟨own, rfl⟩ := offered _ _ (mem_singleton_self _)
    refine .answer own present ⟨incoming, ringing⟩ nofun fun _ =>
      ⟨does.current, fun packet sent => ?_⟩
    rw [asked] at sent
    have silent (call : Call) (reason : EndReason) (status : Int) :
        .sendSip packet ∉ call.farewell reason status := by
      unfold Call.farewell
      cases call.mediaOpen <;> simp
    have only : packet = .response (inviteResponse call 500) := by simpa [silent] using sent
    rw [only]
    rfl
  | accepts present incoming ringing opened does answers offered described =>
    cases answers
    obtain ⟨rfl, rfl⟩ : remote = _ ∧ started = true := by simpa using member
    rw [offered]
    refine .answer _ present ⟨incoming, ringing⟩ (fun _ => ⟨_, described, ?_⟩) nofun
    rw [asked]
    simp
  | proceeds heard | progresses heard | cancelsLate heard | parts heard | connects heard
  | drops heard => exact nomatch heard.message
  | rings asks | reinvites asks | hearsBye asks | hearsCancel asks => exact nomatch asks.message
  | dialFails _ _ _ _ dials => exact nomatch dials
  | dials _ _ _ _ _ _ dials => exact nomatch dials
  | resends _ _ _ _ ticks => exact nomatch ticks
  | forgets _ _ _ sent | fails _ _ _ sent =>
    rcases sent with rfl | ⟨_, rfl⟩ <;> simp [quiet] at member
  | _ => simp [quiet] at member

/-- Starts that an operation may ask for. -/
def Action.Starting (agent : UserAgent Host) (op : Op) : Action → Prop
  | .startMedia remote started => Starts agent op remote started
  | _ => True

theorem Action.starting_of_free (agent : UserAgent Host) (op : Op) (action : Action)
    (free : action.Free) : action.Starting agent op := by
  match action with
  | .startMedia _ _ => exact absurd free fun free => free.elim id id
  | .sendSip _ | .openMedia _ | .closeMedia | .emit _ | .begin _ _ _ => exact trivial

theorem starting_permits (agent : UserAgent Host) (op : Op) (other : op.answers = false) :
    Permits (Action.Starting agent op) agent op := by
  cases op with
  | answer => cases other
  | message datagram now =>
    exact ⟨⟨fun _ _ _ _ _ _ _ => trivial, fun _ _ _ _ _ _ _ => trivial,
      fun _ _ _ _ _ _ _ => .accepted⟩, fun _ arrived isRequest invite addressed =>
        ⟨fun _ _ _ _ _ _ => trivial,
          fun _ _ _ _ found => .reinvite arrived isRequest invite addressed found,
          fun _ _ _ _ _ _ _ _ => trivial, fun _ _ _ _ _ _ _ => trivial,
          fun _ _ _ _ _ _ _ _ => trivial⟩⟩
  | call => exact fun _ => trivial
  | timer => exact fun _ _ _ _ _ => trivial
  | _ => exact trivial

theorem starts_of_asked {agent : UserAgent Host} {op : Op} {remote : RemoteMedia} {started : Bool}
    (member : .startMedia remote started ∈ agent.asked op) : Starts agent op remote started := by
  cases answers : op.answers with
  | true =>
    match op with
    | .answer id now => exact starts_of_answer member
  | false =>
    exact asked_allowed (Action.starting_of_free agent op) agent op
      (starting_permits agent op answers) member

/-! ### The keys -/

/-- The agent sent an SDP for the call that announces its key. -/
def UserAgent.Told (agent : UserAgent Host) (call : Call) : Prop :=
  ∃ packet tag, .sendSip packet ∈ agent.log ∧ packet.callId = call.sipCallId ∧
    Announces packet.body tag call.srtpKey

/-- Media starts with the key that this side announced, and with the key of the far end's crypto
line that the answer names: this side's answer to an INVITE or a re-INVITE, or the far end's answer
to this side's INVITE. If the media layer refuses the keys of an incoming call, nothing is
announced and the call ends. -/
inductive Keyed (agent : UserAgent Host) (op : Op) (remote : RemoteMedia) (started : Bool) : Prop
  | answer {id : Int32} {now : Time} {call : Call} {request : Message} {offer : AudioDescription}
      {line : SdesCrypto} {own : Bytes} (operation : op = .answer id now)
      (present : agent.current = some call) (invited : call.invite = some request)
      (parsed : parseAudio request.body = some offer)
      (chosen : offer.crypto.head? = some line)
      (keys : remote.srtp = some { own, remote := line.key })
      (accepted : started = true → ∃ response, .sendSip (.response response) ∈ agent.asked op ∧
        response.request = request ∧ response.status = 200 ∧ Announces response.body line.tag own)
      (refused : started = false → (agent.step op).current = none ∧
        ∀ packet, .sendSip packet ∈ agent.asked op → packet.body = [])
  | accepted {datagram : Bytes} {now : Time} {response : Message} {transaction : Transaction}
      {context : InviteContext} {call : Call} {answer : AudioDescription} {line : SdesCrypto}
      (operation : op = .message datagram now)
      (answers : agent.Answers datagram response transaction)
      (handler : transaction.onFinal = .invite context)
      (success : UserAgent.isSuccess response.status = true)
      (found : agent.callOf context = some call)
      (parsed : parseAudio response.body = some answer)
      (chosen : (answer.crypto.find? fun line => line.tag = kOfferTag) = some line)
      (keys : remote.srtp = some { own := call.srtpKey, remote := line.key })
      (told : agent.Told call)
  | reinvite {datagram : Bytes} {now : Time} {request : Message} {call : Call}
      {offer : AudioDescription} {line : SdesCrypto} (operation : op = .message datagram now)
      (arrived : parseMessage datagram = some request)
      (found : agent.sameCall request = some call)
      (parsed : parseAudio request.body = some offer)
      (chosen : offer.crypto.head? = some line)
      (keys : remote.srtp = some { own := call.srtpKey, remote := line.key })
      (told : agent.Told call)
      (accepted : started = true → ∃ response, .sendSip (.response response) ∈ agent.asked op ∧
        response.request = request ∧ response.status = 200 ∧
          Announces response.body line.tag call.srtpKey)

theorem UserAgentConfig.remoteMediaFor_secure {config : UserAgentConfig}
    (secure : config.srtp = true) (call : Call) (media : AudioDescription) (line : SdesCrypto) :
    (config.remoteMediaFor call media (some line)).srtp =
      some { own := call.srtpKey, remote := line.key } :=
  if_pos secure

theorem UserAgentConfig.remoteOf_secure {config : UserAgentConfig} (secure : config.srtp = true)
    (own : Bytes) {call : Call} {line : SdesCrypto}
    (usable : config.acceptable call.offer = some (some line)) :
    (config.remoteOf call own).srtp = some { own, remote := line.key } := by
  unfold UserAgentConfig.remoteOf
  rw [usable]
  exact UserAgentConfig.remoteMediaFor_secure secure _ _ line

namespace UserAgent.Sound

variable {agent : UserAgent Host} {call : Call}

omit [UserAgentHost Host] in
theorem announced (sound : agent.Sound) (secure : agent.config.srtp = true)
    (present : agent.current = some call)
    (settled : call.outgoing = true ∨ call.state ≠ .ringing) : agent.Told call := by
  have whole := sound.call call present
  obtain ⟨packet, answering, sent, named, described⟩ := whole.told (whole.opened.mpr settled)
  obtain ⟨tag, announces⟩ := described.announces secure
  exact ⟨packet, tag, sent, named, announces⟩

/-- With SRTP on media only starts with keys that were announced. -/
theorem keyed (sound : agent.Sound) (secure : agent.config.srtp = true) {op : Op}
    {remote : RemoteMedia} {started : Bool}
    (member : .startMedia remote started ∈ agent.asked op) : Keyed agent op remote started := by
  have cause := starts_of_asked member
  cases cause with
  | answer own present ringing accepted refused =>
    obtain ⟨request, key, invited, -, parsed, usable⟩ := (sound.call _ present).rang ringing.1
    obtain ⟨line, chosen, rfl⟩ := UserAgentConfig.acceptable_line usable secure
    refine .answer rfl present invited parsed chosen
      (UserAgentConfig.remoteOf_secure secure own usable) (fun success => ?_) refused
    obtain ⟨body, described, sent⟩ := accepted success
    refine ⟨_, sent, ?_, rfl, described.announces_chosen secure usable⟩
    show Option.getD _ _ = request
    rw [invited, Option.getD_some]
  | accepted answers handler success found usable =>
    obtain ⟨present, -, branch⟩ := callOf_eq_some found
    have sent := branch ▸ Transaction.branch_ne_nil handler
    obtain ⟨line, chosen, rfl⟩ := UserAgentConfig.usableAnswer_line usable secure
    exact .accepted rfl answers handler success found (UserAgentConfig.usableAnswer_parsed usable).1
      chosen (UserAgentConfig.remoteMediaFor_secure secure _ _ line)
      (sound.announced secure present (Or.inl ((sound.call _ present).dialled.mpr sent)))
  | reinvite arrived isRequest invite addressed found inDialog parsed usable =>
    have present := (sameCall_eq_some found).1
    obtain ⟨line, chosen, rfl⟩ := UserAgentConfig.acceptable_line usable secure
    refine .reinvite rfl arrived found parsed chosen
      (UserAgentConfig.remoteMediaFor_secure secure _ _ line)
      (sound.announced secure present (inDialog.imp_right fun confirmed => by simp [confirmed]))
      fun success => ?_
    obtain ⟨outcome, response, log, answers, accepted⟩ := agent.followReinvite_log _ parsed usable
    rw [asked_reinvite arrived isRequest invite addressed found inDialog log] at member ⊢
    have same : started = outcome := by simpa using member
    obtain ⟨status, described⟩ := accepted (same ▸ success)
    exact ⟨response, mem_cons_of_mem _ (mem_singleton_self _), answers, status,
      (described secure).announces_chosen secure usable⟩

end UserAgent.Sound

/-! ### Without SRTP -/

/-- The far end's description that an operation is about. -/
def UserAgent.Hears (agent : UserAgent Host) (media : AudioDescription) : Op → Prop
  | .answer _ _ => ∃ call request, agent.current = some call ∧ call.invite = some request ∧
      parseAudio request.body = some media
  | .message datagram _ => ∃ message, parseMessage datagram = some message ∧
      parseAudio message.body = some media
  | _ => False

theorem UserAgentConfig.not_savp {config : UserAgentConfig} {media : AudioDescription}
    {key : Option SdesCrypto} (usable : config.acceptable media = some key)
    (plain : config.srtp = false) : media.savp = false := by
  unfold UserAgentConfig.acceptable at usable
  rw [plain, Bool.not_false, if_pos rfl] at usable
  split at usable
  · cases usable
  · split at usable
    · cases usable
    next apart => exact Bool.eq_false_iff.mpr apart

theorem UserAgentConfig.remoteMediaFor_plain {config : UserAgentConfig}
    (plain : config.srtp = false) (call : Call) (media : AudioDescription)
    (key : Option SdesCrypto) :
    config.remoteMediaFor call media key =
      { address := media.address, port := media.port, srtp := none } := by
  unfold UserAgentConfig.remoteMediaFor
  rw [if_neg (Bool.eq_false_iff.mp plain)]

/-- What an operation may accept. -/
def Action.Suiting (config : UserAgentConfig) : Action → Prop
  | .sendSip (.response response) => response.Accepts → config.Suits response.request
  | _ => True

theorem Action.suiting_of_free (config : UserAgentConfig) (action : Action) (free : action.Free) :
    action.Suiting config := by
  match action with
  | .sendSip (.response _) => exact fun accepts => absurd accepts (free.elim id nofun)
  | .sendSip (.request _ _) | .sendSip (.ackForFailure _ _) | .startMedia _ _ | .openMedia _
  | .closeMedia | .emit _ | .begin _ _ _ => exact trivial

namespace UserAgent.Sound

variable {agent : UserAgent Host}

omit [UserAgentHost Host] in
theorem suiting_permits (sound : agent.Sound) (op : Op) :
    Permits (Action.Suiting agent.config) agent op := by
  cases op with
  | answer id now =>
    intro call present named incoming _
    obtain ⟨request, key, invited, -, parsed, usable⟩ := (sound.call _ present).rang incoming
    refine ⟨fun _ _ => trivial, fun _ _ => ?_⟩
    show agent.config.Suits (call.invite.getD {})
    rw [invited]
    exact ⟨call.offer, key, parsed, usable⟩
  | timer now => exact fun call response present _ => (sound.call _ present).suits response
  | message datagram now =>
    exact ⟨⟨fun _ _ _ _ _ _ _ => trivial, fun _ _ _ _ _ _ _ => trivial,
      fun _ _ _ _ _ _ _ _ _ _ _ _ => trivial⟩, fun request _ _ _ _ =>
        ⟨fun call response found _ _ =>
            (sound.call _ (sameCall_eq_some found).1).suits response,
          fun _ _ _ _ _ _ _ _ => trivial,
          fun _ offer key _ _ _ parsed usable _ => ⟨offer, key, parsed, usable⟩,
          fun _ _ _ _ _ _ _ => trivial, fun _ _ _ _ _ _ _ _ => trivial⟩⟩
  | call => exact fun _ => trivial
  | _ => exact trivial

theorem suits_of_accepts (sound : agent.Sound) {op : Op} {response : Response}
    (member : .sendSip (.response response) ∈ agent.asked op) (accepts : response.Accepts) :
    agent.config.Suits response.request :=
  asked_allowed (Action.suiting_of_free agent.config) agent op (sound.suiting_permits op) member
    accepts

/-- With SRTP off media starts without keys, and never for an RTP/SAVP description. -/
theorem unkeyed (sound : agent.Sound) (plain : agent.config.srtp = false) {op : Op}
    {remote : RemoteMedia} {started : Bool}
    (member : .startMedia remote started ∈ agent.asked op) :
    ∃ media, agent.Hears media op ∧ media.savp = false ∧
      remote = { address := media.address, port := media.port, srtp := none } := by
  have cause := starts_of_asked member
  cases cause with
  | answer own present ringing =>
    obtain ⟨request, key, invited, -, parsed, usable⟩ := (sound.call _ present).rang ringing.1
    exact ⟨_, ⟨_, request, present, invited, parsed⟩, UserAgentConfig.not_savp usable plain,
      UserAgentConfig.remoteMediaFor_plain plain _ _ _⟩
  | accepted answers _ _ _ usable =>
    obtain ⟨parsed, key, acceptable⟩ := UserAgentConfig.usableAnswer_parsed usable
    exact ⟨_, ⟨_, answers.1, parsed⟩, UserAgentConfig.not_savp acceptable plain,
      UserAgentConfig.remoteMediaFor_plain plain _ _ _⟩
  | reinvite arrived _ _ _ _ _ parsed usable =>
    exact ⟨_, ⟨_, arrived, parsed⟩, UserAgentConfig.not_savp usable plain,
      UserAgentConfig.remoteMediaFor_plain plain _ _ _⟩

end UserAgent.Sound

end Agents

end KetPhone.Core
