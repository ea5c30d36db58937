/-
This file sums up what a turn makes of the call. The call that is there afterwards
was there before, but for what may change while it lasts, or it rings, is dialled,
invites again or is answered in the turn.
-/

import KetPhone.UserAgent.CallSteps

namespace KetPhone.Core

open Sip List OrderedMap UserAgent

variable {Host : Type}

/-- A change of a call between its beginning, its INVITEs, its acceptance and its end. -/
structure Call.Becomes (config : UserAgentConfig) (call next : Call) : Prop where
  id : next.id = call.id
  outgoing : next.outgoing = call.outgoing
  sipCallId : next.sipCallId = call.sipCallId
  inviteBranch : next.inviteBranch = call.inviteBranch
  invite : next.invite = call.invite
  offer : next.offer = call.offer
  lastResponse : next.lastResponse = call.lastResponse
  mediaOpen : next.mediaOpen = call.mediaOpen
  srtpKey : next.srtpKey = call.srtpKey
  state : next.state = call.state ∨
    next.state = .confirmed ∧ (call.inviteBranch ≠ [] ∨ call.state = .answering)
  sdp : next.localSdp = call.localSdp ∨
    ∃ answering, config.Describes answering next.srtpKey next.localSdp

theorem Call.Becomes.refl (config : UserAgentConfig) (call : Call) : call.Becomes config call :=
  ⟨rfl, rfl, rfl, rfl, rfl, rfl, rfl, rfl, rfl, Or.inl rfl, Or.inl rfl⟩

/-- The call after its answer, and the answer. -/
structure Call.Accepted (config : UserAgentConfig) (call next : Call) (response : Response) :
    Prop where
  sipCallId : next.sipCallId = call.sipCallId
  outgoing : next.outgoing = call.outgoing
  inviteBranch : next.inviteBranch = call.inviteBranch
  invite : next.invite = call.invite
  offer : next.offer = call.offer
  mediaOpen : next.mediaOpen = true
  state : next.state = .answering
  lastResponse : next.lastResponse = some response
  localSdp : next.localSdp = response.body
  responds : response = { UserAgent.inviteResponse call 200 with body := response.body }
  described : config.Describes (some call.offer) next.srtpKey response.body

/-- Where the call after a turn comes from. -/
inductive CallComes (cause : Cause) (added : List Action) (before : UserAgent Host) : Call → Prop
  | set {call next : Call} (present : before.current = some call)
      (becomes : call.Becomes before.config next) : CallComes cause added before next
  | ring {request : Message} {offer : AudioDescription} {key : Option SdesCrypto} (id : Int32)
      (tag : Bytes) (parsed : parseAudio request.body = some offer)
      (usable : before.config.acceptable offer = some key) :
    CallComes cause added before (UserAgent.incomingCall before.config id request tag offer)
  | dial {call : Call} {branch : Bytes} (named : branch ≠ []) (dialling : call.Dialling)
      (described : before.config.Describes none call.srtpKey call.localSdp)
      (sent : .sendSip (.request (UserAgent.inviteRequest call []) branch) ∈ added) :
    CallComes cause added before (call.invited branch)
  | invite {call : Call} {branch : Bytes} (named : branch ≠ [])
      (present : before.current = some call) (sent : call.inviteBranch ≠ []) :
    CallComes cause added before ({ call with authenticated := true }.invited branch)
  | accept {call next : Call} {response : Response} (answers : cause = .answers call.id)
      (present : before.current = some call)
      (ringing : call.outgoing = false ∧ call.state = .ringing)
      (accepts : call.Accepted before.config next response)
      (sent : .sendSip (.response response) ∈ added) :
    CallComes cause added before next

variable [UserAgentHost Host] {cause : Cause} {before after : UserAgent Host}
  {added : List Action} {call : Call}

theorem CallTurn.comes (turn : CallTurn cause added before after)
    (present : after.current = some call) : CallComes cause added before call := by
  cases turn with
  | rests does | replies _ does | acknowledges _ _ does | proceeds _ _ _ does | concludes _ _ does
  | forgets _ _ _ _ does | parts _ _ _ _ _ _ does =>
    exact .set (does.current.symm.trans present) (.refl _ _)
  | fails _ _ _ _ does | drops _ _ _ _ _ _ _ does | dialFails _ _ _ does | hearsBye _ _ does
  | hearsCancel _ _ _ _ does | rejects _ _ _ does | answerFails _ _ _ _ does
  | abandons _ _ _ does | saysBye _ _ _ does => exact nomatch does.current.symm.trans present
  | progresses _ _ here _ _ _ _ does | cancelsLate _ _ here _ _ _ _ _ _ does
  | resends here _ _ does | givesUp here _ _ _ does | cancels here _ _ _ _ _ does =>
    cases does.current.symm.trans present
    exact .set here { Call.Becomes.refl before.config _ with }
  | retries _ invites own _ _ _ begun does =>
    cases does.current.symm.trans present
    obtain ⟨here, -, branch⟩ := callOf_eq_some own
    exact .invite (Transaction.branch_ne_nil begun.onFinal) here
      (branch ▸ Transaction.branch_ne_nil invites)
  | connects _ _ invites own _ _ _ does =>
    cases does.current.symm.trans present
    obtain ⟨here, -, branch⟩ := callOf_eq_some own
    have sent := branch ▸ Transaction.branch_ne_nil invites
    exact .set here { Call.Becomes.refl before.config _ with
      state := Or.inr ⟨rfl, Or.inl sent⟩ }
  | dials _ _ dialling _ begun does _ described =>
    cases does.current.symm.trans present
    refine .dial (Transaction.branch_ne_nil begun.onFinal) dialling described ?_
    rw [← begun.packet]
    exact mem_cons_of_mem _ (mem_cons_of_mem _ (mem_singleton_self _))
  | rings _ _ _ does _ offered =>
    cases does.current.symm.trans present
    obtain ⟨key, parsed, usable⟩ := offered
    exact .ring _ _ parsed usable
  | reinvites _ same _ does offered =>
    cases does.current.symm.trans present
    obtain ⟨offer, key, -, -, -, sdp⟩ := offered
    exact .set (sameCall_eq_some same).1 { Call.Becomes.refl before.config _ with
      sdp := sdp.imp_right fun described => ⟨some offer, described⟩ }
  | confirms here _ answering _ does =>
    cases does.current.symm.trans present
    exact .set here { Call.Becomes.refl before.config _ with
      state := Or.inr ⟨rfl, Or.inr answering⟩ }
  | accepts here incoming ringing _ does answers _ described =>
    cases does.current.symm.trans present
    exact .accept answers here ⟨incoming, ringing⟩
      ⟨rfl, rfl, rfl, rfl, rfl, rfl, rfl, rfl, rfl, rfl, described⟩ (by simp)

theorem CallStep.comes (step : CallStep cause added before after)
    (present : after.current = some call) : CallComes cause added before call := by
  cases step with
  | registers side => exact .set (side.frame.current ▸ present) (.refl _ _)
  | calls turn => exact turn.comes present

end KetPhone.Core
