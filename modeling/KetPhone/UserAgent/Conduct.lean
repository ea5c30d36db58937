/-
This file says once what each operation may ask of the agent's surroundings.
Routine things and those of the registration may follow from any operation. What
matters more, ringing, starting media, accepting an INVITE and acknowledging its
acceptance, only follows from the operations named here, and only in the states
named here.
-/

import KetPhone.UserAgent.CallSteps

namespace KetPhone.Core

open Sip List UserAgent

variable {Host : Type} {allowed : Action → Prop}

/-- The actions that an INVITE may bring about are allowed: sending the last response again,
following a re-INVITE, and ringing. -/
structure AllowsInvite (allowed : Action → Prop) (agent : UserAgent Host) (request : Message) :
    Prop where
  resends : ∀ call response, agent.sameCall request = some call → call.outgoing = false →
    call.state ≠ .confirmed → call.lastResponse = some response →
      allowed (.sendSip (.response response))
  starts : ∀ call offer key started, agent.sameCall request = some call →
    (call.outgoing = true ∨ call.state = .confirmed) → parseAudio request.body = some offer →
      agent.config.acceptable offer = some key →
        allowed (.startMedia (agent.config.remoteMediaFor call offer key) started)
  accepts : ∀ call offer key body, agent.sameCall request = some call →
    (call.outgoing = true ∨ call.state = .confirmed) → parseAudio request.body = some offer →
      agent.config.acceptable offer = some key →
        allowed (.sendSip (.response { request, status := 200, body }))
  begins : ∀ offer key id, agent.current = none → agent.shuttingDown = false →
    parseAudio request.body = some offer → agent.config.acceptable offer = some key →
      allowed (.begin false id (request.headerOr "call-id"))
  rings : ∀ offer key event, agent.current = none → agent.shuttingDown = false →
    parseAudio request.body = some offer → agent.config.acceptable offer = some key →
      event.kind = .callIncoming → allowed (.emit event)

/-- The actions that a response may bring about are allowed: acknowledging the acceptance of an
INVITE, once or again, and starting media. -/
structure AllowsResponse (allowed : Action → Prop) (agent : UserAgent Host) (datagram : Bytes) :
    Prop where
  acknowledges : ∀ response transaction context branch,
    agent.Answers datagram response transaction → transaction.onFinal = .invite context →
      200 ≤ response.status →
        allowed (.sendSip (.request (UserAgent.ackRequest context response) branch))
  repeats : ∀ response call ack, parseMessage datagram = some response →
    (∀ transaction, ¬ agent.Answers datagram response transaction) →
      agent.sameCall response = some call → call.ack = some ack → allowed (.sendSip ack.packet)
  starts : ∀ response transaction context call answer key started,
    agent.Answers datagram response transaction → transaction.onFinal = .invite context →
      UserAgent.isSuccess response.status = true → agent.callOf context = some call →
        agent.config.usableAnswer response.body = some (answer, key) →
          allowed (.startMedia (agent.config.remoteMediaFor call answer key) started)

/-- The actions that an operation may bring about besides routine ones are allowed. -/
def Permits (allowed : Action → Prop) (agent : UserAgent Host) : Op → Prop
  | .call id _ _ => ∀ sipCallId, allowed (.begin true id sipCallId)
  | .answer id _ => ∀ call, agent.current = some call → call.id = id → call.outgoing = false →
      call.state = .ringing → (∀ remote started, allowed (.startMedia remote started)) ∧
        ∀ body, allowed (.sendSip (.response { UserAgent.inviteResponse call 200 with body }))
  | .message datagram _ => AllowsResponse allowed agent datagram ∧
      ∀ request, parseMessage datagram = some request → request.isResponse = false →
        request.method = ascii "INVITE" → UserAgent.wellAddressed request = true →
          AllowsInvite allowed agent request
  | .timer _ => ∀ call response, agent.current = some call → call.state = .answering →
      call.lastResponse = some response → allowed (.sendSip (.response response))
  | _ => True

variable [UserAgentHost Host]

/-! ### Transactions that end without a response -/

/-- What needs no permission. -/
def Action.Free (action : Action) : Prop := action.Routine ∨ action.ConcernsRegistration

theorem Transaction.free_packet (transaction : Transaction) :
    Action.Free (.sendSip transaction.packet) := by
  cases side : transaction.onFinal.isRegister with
  | false => exact Or.inl (Transaction.method_of_not_isRegister side)
  | true => exact Or.inr (congrArg some (Transaction.method_of_isRegister side))

theorem Call.routine_farewell (call : Call) (reason : EndReason) (status : Int) :
    ∀ action ∈ call.farewell reason status, action.Routine := by
  unfold farewell
  cases call.mediaOpen <;> simp [Action.Routine]

/-- Between two states only free actions were taken, and the call is the same one or none. -/
structure Fades (before after : UserAgent Host) : Prop where
  current : after.current = none ∨ after.current = before.current
  log : Grows Action.Free before.log after.log

namespace Fades

variable {before after : UserAgent Host}

theorem registers (fades : Fades before after) {later : UserAgent Host}
    (side : RegisterSide after later) : Fades before later where
  current := side.frame.current ▸ fades.current
  log := fades.log.trans (side.frame.log.mono fun _ concerns => Or.inr concerns.1)

theorem endCall (fades : Fades before after) (reason : EndReason) (status : Int) :
    Fades before (after.endCall reason status) := by
  cases present : after.current with
  | none =>
    have same : after.endCall reason status = after := by
      unfold UserAgent.endCall
      rw [present]
    exact same.symm ▸ fades
  | some call =>
    have ended := Does.refl after
    rw [present] at ended
    have gone := ended.endCall reason status
    exact ⟨Or.inl gone.current, fades.log.trans ⟨_, gone.log, fun action member =>
      Or.inl (call.routine_farewell reason status action member)⟩⟩

theorem runFinal (fades : Fades before after) (handler : FinalHandler) (now : Time) :
    Fades before (after.runFinal handler none now) := by
  match handler with
  | .register expires authenticated =>
    exact fades.registers
      ((RegisterSide.refl after).onRegisterFinal none nofun expires authenticated now)
  | .invite context =>
    show Fades before (if (after.callOf context).isSome then after.endCall .timeout 408 else after)
    split
    · exact fades.endCall _ _
    · exact fades
  | .ignore => exact fades

theorem expire (fades : Fades before after) (now : Time) (key : Bytes) :
    Fades before (after.expire now key) := by
  unfold UserAgent.expire
  split
  · exact fades
  · have erased : Fades before { after with transactions := after.transactions.erase key } :=
      ⟨fades.current, fades.log⟩
    exact erased.runFinal _ now

end Fades

theorem Fades.retransmit (agent : UserAgent Host) (now : Time) :
    Fades agent (agent.retransmit now) := by
  obtain ⟨host, equal⟩ := agent.retransmit_eq now
  rw [equal]
  refine ⟨Or.inr rfl, _, rfl, fun action member => ?_⟩
  obtain ⟨transaction, -, rfl⟩ := mem_map.mp member
  exact transaction.free_packet

/-! ### The turns of calls -/

section Turns

variable (routine : ∀ action : Action, action.Routine → allowed action) {agent : UserAgent Host}
  {op : Op}

include routine

omit [UserAgentHost Host] in
theorem Reply.permitted {response : Response} (reply : Reply agent op.cause response)
    (permits : Permits allowed agent op) : allowed (.sendSip (.response response)) := by
  cases reply with
  | other _ _ _ denies => exact routine _ denies
  | refuses _ _ status =>
    refine routine _ fun accepts => ?_
    rw [accepts.1] at status
    exact absurd status (by decide)
  | declines _ _ _ status =>
    exact routine _ (Action.routine_response 488 status (by decide))
  | again _ incoming early kept asks =>
    obtain ⟨request, asks, same⟩ := asks
    obtain ⟨datagram, now, rfl, parsed⟩ := Op.exists_of_hears asks.message
    exact (permits.2 request parsed asks.isRequest asks.method asks.addressed).resends _ response
      same incoming early kept

/-- A turn of a call asks for what its operation may ask for. -/
theorem CallTurn.permitted {after : UserAgent Host} {added : List Action}
    (turn : CallTurn op.cause added agent after) (permits : Permits allowed agent op) :
    ∀ action ∈ added, allowed action := by
  have begins {transaction : Transaction} {request : Request} {branch : Bytes}
      {onFinal : FinalHandler} (begun : transaction.Begun request branch onFinal)
      (ours : onFinal.isRegister = false) : allowed (.sendSip transaction.packet) :=
    routine _ (Transaction.method_of_not_isRegister (begun.not_isRegister ours))
  have told {event : Event} (kind : event.kind = .callProgress ∨ event.kind = .callAnswered) :
      allowed (.emit event) := by
    refine routine _ ?_
    rcases kind with equal | equal <;> exact ⟨equal ▸ nofun, equal ▸ nofun⟩
  have refuses {response : Response} (code : Int) (status : response.status = code)
      (other : code ≠ 200) : allowed (.sendSip (.response response)) :=
    routine _ (Action.routine_response code status other)
  have ends (call : Call) (reason : EndReason) (status : Int) :
      ∀ action ∈ call.farewell reason status, allowed action :=
    fun action member => routine action (call.routine_farewell reason status action member)
  have acknowledges {response : Message} {transaction : Transaction} {context : InviteContext}
      {ack : Ack} (heard : agent.Heard op.cause response transaction)
      (accepts : isSuccess response.status = true) (invites : transaction.onFinal = .invite context)
      (acknowledges : ack.request = ackRequest context response) :
      allowed (.sendSip ack.packet) := by
    obtain ⟨datagram, now, rfl, parsed⟩ := Op.exists_of_hears heard.message
    have final : 200 ≤ response.status := (by simpa [isSuccess] using accepts :
      200 ≤ response.status ∧ response.status < 300).1
    have acked := permits.1.acknowledges response transaction context ack.branch
      (heard.answers parsed) invites final
    unfold Ack.packet
    rwa [acknowledges]
  have follows {response : Message} {transaction : Transaction} {context : InviteContext}
      {call : Call} {remote : RemoteMedia} (started : Bool)
      (heard : agent.Heard op.cause response transaction)
      (accepts : isSuccess response.status = true) (invites : transaction.onFinal = .invite context)
      (own : agent.callOf context = some call)
      (follows : agent.config.Follows call response remote) :
      allowed (.startMedia remote started) := by
    obtain ⟨datagram, now, rfl, parsed⟩ := Op.exists_of_hears heard.message
    obtain ⟨answer, key, usable, rfl⟩ := follows
    exact permits.1.starts response transaction context call answer key started
      (heard.answers parsed) invites accepts own usable
  have invited {request : Message} (asks : Asks op.cause request "INVITE") :
      AllowsInvite allowed agent request := by
    obtain ⟨datagram, now, rfl, parsed⟩ := Op.exists_of_hears asks.message
    exact permits.2 request parsed asks.isRequest asks.method asks.addressed
  have acks (context : InviteContext) (recipient : Bytes) :
      allowed (.sendSip (.ackForFailure context recipient)) := routine _ trivial
  have opens (port : UInt16) : allowed (.openMedia port) := routine _ trivial
  cases turn with
  | rests | proceeds | concludes | givesUp => exact forall_mem_nil _
  | replies reply => exact forall_mem_singleton.mpr (reply.permitted routine permits)
  | acknowledges _ kept _ unheard =>
    obtain ⟨response, heard, same, unheard⟩ := unheard
    obtain ⟨datagram, now, rfl, parsed⟩ := Op.exists_of_hears heard
    refine forall_mem_singleton.mpr (permits.1.repeats response _ _ parsed (fun other answers => ?_)
      same kept)
    exact unheard other (heard ▸ answers.heard)
  | progresses _ _ _ _ _ _ event =>
    rcases event with rfl | ⟨event, kind, -, rfl⟩
    · exact forall_mem_nil _
    · exact forall_mem_singleton.mpr (told (Or.inl kind))
  | cancelsLate _ _ _ _ _ _ _ _ begun | cancels _ _ _ _ _ begun =>
    exact forall_mem_singleton.mpr (begins begun rfl)
  | forgets _ _ _ sent =>
    rcases sent with rfl | ⟨recipient, rfl⟩
    · exact forall_mem_nil _
    · exact forall_mem_singleton.mpr (acks _ _)
  | parts heard accepts invites _ acknowledged begun =>
    exact forall_mem_cons.mpr ⟨acknowledges heard accepts invites acknowledged,
      forall_mem_singleton.mpr (begins begun rfl)⟩
  | fails _ _ _ sent =>
    refine forall_mem_append.mpr ⟨?_, ends _ _ _⟩
    rcases sent with rfl | ⟨recipient, rfl⟩
    · exact forall_mem_nil _
    · exact forall_mem_singleton.mpr (acks _ _)
  | retries _ _ _ _ _ _ begun =>
    exact forall_mem_cons.mpr ⟨acks _ _, forall_mem_singleton.mpr (begins begun rfl)⟩
  | connects heard accepts invites own _ acknowledged event _ started =>
    exact forall_mem_cons.mpr ⟨acknowledges heard accepts invites acknowledged,
      forall_mem_cons.mpr ⟨follows true heard accepts invites own started,
        forall_mem_singleton.mpr (told (Or.inr event.1))⟩⟩
  | drops heard accepts invites own acknowledged refused begun _ _ starts =>
    refine forall_mem_append.mpr ⟨forall_mem_cons.mpr
      ⟨acknowledges heard accepts invites acknowledged, ?_⟩,
      forall_mem_cons.mpr ⟨begins begun rfl, ends _ _ _⟩⟩
    rcases refused with rfl | ⟨remote, rfl⟩
    · exact forall_mem_nil _
    · exact forall_mem_singleton.mpr (follows false heard accepts invites own
        (starts remote false (mem_singleton_self _)))
  | dialFails _ _ _ _ dials =>
    obtain ⟨target, now, rfl⟩ := Op.exists_of_dials dials
    exact forall_mem_cons.mpr ⟨opens _, forall_mem_cons.mpr ⟨permits _, ends _ _ _⟩⟩
  | dials _ _ _ _ begun _ dials =>
    obtain ⟨target, now, rfl⟩ := Op.exists_of_dials dials
    exact forall_mem_cons.mpr ⟨opens _, forall_mem_cons.mpr ⟨permits _,
      forall_mem_singleton.mpr (begins begun rfl)⟩⟩
  | rings asks idle event _ staying offered =>
    obtain ⟨key, parsed, usable⟩ := offered
    exact forall_mem_cons.mpr ⟨refuses 180 rfl (by decide), forall_mem_cons.mpr
      ⟨(invited asks).begins _ key _ idle staying parsed usable, forall_mem_singleton.mpr
        ((invited asks).rings _ key _ idle staying parsed usable event.1)⟩⟩
  | reinvites asks same settled _ offered outcome =>
    obtain ⟨offer, key, parsed, usable, rfl, -⟩ := offered
    refine forall_mem_cons.mpr ⟨(invited asks).starts _ offer key _ same settled parsed usable,
      forall_mem_singleton.mpr ?_⟩
    rcases outcome with ⟨-, accepts⟩ | ⟨-, status, -⟩
    · rw [accepts]
      exact (invited asks).accepts _ offer key _ same settled parsed usable
    · exact refuses 488 status (by decide)
  | confirms _ _ _ event => exact forall_mem_singleton.mpr (told (Or.inr event.1))
  | hearsBye asks =>
    refine forall_mem_cons.mpr ⟨routine _ fun accepts => ?_, ends _ _ _⟩
    exact absurd (asks.method.symm.trans accepts.2) (by decide)
  | hearsCancel asks =>
    refine forall_mem_cons.mpr ⟨routine _ fun accepts => ?_,
      forall_mem_cons.mpr ⟨refuses 487 rfl (by decide), ends _ _ _⟩⟩
    exact absurd (asks.method.symm.trans accepts.2) (by decide)
  | @rejects _ _ _ code _ _ _ _ refusal =>
    exact forall_mem_cons.mpr ⟨refuses code rfl (by omega), ends _ _ _⟩
  | answerFails present incoming ringing refused _ answers =>
    obtain ⟨now, rfl⟩ := Op.exists_of_answers answers
    refine forall_mem_append.mpr ⟨forall_mem_cons.mpr ⟨opens _, ?_⟩,
      forall_mem_cons.mpr ⟨refuses 500 rfl (by decide), ends _ _ _⟩⟩
    rcases refused with rfl | ⟨-, remote, rfl⟩
    · exact forall_mem_nil _
    · exact forall_mem_singleton.mpr ((permits _ present rfl incoming ringing).1 _ _)
  | accepts present incoming ringing _ _ answers =>
    obtain ⟨now, rfl⟩ := Op.exists_of_answers answers
    obtain ⟨starts, responds⟩ := permits _ present rfl incoming ringing
    exact forall_mem_cons.mpr ⟨opens _, forall_mem_cons.mpr ⟨starts _ _,
      forall_mem_singleton.mpr (responds _)⟩⟩
  | resends present answering sent _ ticks =>
    cases Op.eq_of_ticks ticks
    rcases sent with rfl | ⟨response, kept, rfl⟩
    · exact forall_mem_nil _
    · exact forall_mem_singleton.mpr (permits _ response present answering kept)
  | abandons => exact ends _ _ _
  | saysBye _ _ begun => exact forall_mem_cons.mpr ⟨begins begun rfl, ends _ _ _⟩

end Turns

/-! ### The operations -/

section Operations

variable (free : ∀ action : Action, action.Free → allowed action) (agent : UserAgent Host)

include free

theorem CallStep.permitted (op : Op) {after : UserAgent Host} {added : List Action}
    (step : CallStep op.cause added agent after) (permits : Permits allowed agent op) :
    ∀ action ∈ added, allowed action := by
  cases step with
  | registers side log =>
    obtain ⟨grown, equal, concerns⟩ := side.frame.log
    cases append_cancel_left (log.symm.trans equal)
    exact fun action member => free action (Or.inr (concerns action member).1)
  | calls turn => exact turn.permitted (fun action routine => free action (Or.inl routine)) permits

/-- An operation that is always permitted. -/
theorem CallSteps.permitted (op : Op) (permits : ∀ agent : UserAgent Host, Permits allowed agent op)
    {after : UserAgent Host} {added : List Action}
    (steps : CallSteps op.cause added agent after) : ∀ action ∈ added, allowed action := by
  induction steps with
  | refl => exact nofun
  | tail _ step hypothesis =>
    exact forall_mem_append.mpr ⟨hypothesis, CallStep.permitted free _ op step (permits _)⟩

theorem onTimer_grows (now : Time) (permits : Permits allowed agent (.timer now)) :
    Grows allowed agent.log (agent.onTimer now).log := by
  have expired := loop_keeps (Fades agent) (agent.expiredKeys now)
    (fun _ key _ fades => fades.expire now key) (Fades.retransmit agent now)
  obtain ⟨added, turn⟩ := CallTurn.awaitAck (agent.expired now) now
  obtain ⟨_, _, does⟩ := turn.exists_does
  have awaited : Grows allowed (agent.expired now).log ((agent.expired now).awaitAck now).log := by
    refine ⟨added, does.log, CallStep.permitted free _ (.timer now) (.calls turn) ?_⟩
    intro call response present answering kept
    rcases expired.current with gone | same
    · exact nomatch gone.symm.trans present
    · exact permits call response (same.symm.trans present) answering kept
  unfold onTimer
  exact ((expired.log.mono free).trans awaited).trans
    (((RegisterSide.refl _).refresh now).frame.log.mono fun action concerns =>
      free action (Or.inr concerns.1))

/-- Every operation does what it is permitted. -/
theorem step_grows (op : Op) (permits : Permits allowed agent op) :
    Grows allowed agent.log (agent.step op).log := by
  have one (op : Op) (permits : Permits allowed agent op)
      (step : ∃ added, CallStep op.cause added agent (agent.step op)) :
      Grows allowed agent.log (agent.step op).log :=
    let ⟨added, step⟩ := step
    ⟨added, step.log, CallStep.permitted free agent op step permits⟩
  have always (op : Op) (permits : ∀ agent : UserAgent Host, Permits allowed agent op)
      (still : agent.resending op = agent) : Grows allowed agent.log (agent.step op).log := by
    obtain ⟨added, steps⟩ := CallSteps.stepped agent op
    rw [still] at steps
    exact ⟨added, steps.log, CallSteps.permitted free agent op permits steps⟩
  cases op with
  | call id target now =>
    obtain ⟨added, turn⟩ := CallTurn.call agent id target now
    exact one _ permits ⟨added, .calls turn⟩
  | answer id now =>
    obtain ⟨added, turn⟩ := CallTurn.answer agent id now
    exact one _ permits ⟨added, .calls turn⟩
  | message datagram now =>
    cases parsed : parseMessage datagram with
    | none =>
      show Grows allowed agent.log (agent.onMessage datagram now).log
      unfold onMessage
      rw [parsed]
      exact Grows.refl _
    | some heard =>
      obtain ⟨added, step⟩ := CallStep.onMessage agent parsed now
      exact one _ permits ⟨added, Op.cause_of_parsed parsed now ▸ step⟩
  | timer now => exact onTimer_grows free agent now permits
  | _ => exact always _ (fun _ => trivial) rfl

theorem asked_allowed (op : Op) (permits : Permits allowed agent op) {action : Action}
    (member : action ∈ agent.asked op) : allowed action :=
  (step_grows free agent op permits).of_mem_drop member

end Operations

/-! ### What calls leave of the registration -/

omit [UserAgentHost Host] in
theorem permits_not_concerns (agent : UserAgent Host) (op : Op) :
    Permits (fun action => ¬ action.ConcernsRegistration) agent op := by
  have apart : ascii "ACK" ≠ ascii "REGISTER" := by decide
  cases op with
  | call => exact fun _ => id
  | answer => exact fun _ _ _ _ _ => ⟨fun _ _ => id, fun _ => nofun⟩
  | message datagram now =>
    refine ⟨⟨fun _ _ _ _ _ _ _ concerns => apart (Option.some.inj concerns),
      fun _ _ ack _ _ _ _ concerns => apart (ack.isAck.symm.trans (Option.some.inj concerns)),
      fun _ _ _ _ _ _ _ _ _ _ _ _ => id⟩, fun request _ _ _ _ =>
        ⟨fun _ _ _ _ _ _ => nofun, fun _ _ _ _ _ _ _ _ => id, fun _ _ _ _ _ _ _ _ => nofun,
          fun _ _ _ _ _ _ _ => id, fun _ _ event _ _ _ _ incoming concerns => ?_⟩⟩
    exact nomatch incoming.symm.trans concerns
  | timer => exact fun _ _ _ _ _ => nofun
  | _ => exact trivial

theorem CallTurn.leaves (op : Op) {before after : UserAgent Host} {added : List Action}
    (turn : CallTurn op.cause added before after) : LeavesRegistration before after := by
  obtain ⟨_, _, does⟩ := turn.exists_does
  exact ⟨does.config, does.random, does.draws, does.shuttingDown, does.registration,
    turn.reworks.registers, added, does.log,
    turn.permitted (fun _ routine => routine.not_concernsRegistration)
      (permits_not_concerns before op)⟩

namespace LeavesRegistration

variable (agent : UserAgent Host)

theorem call (id : Int32) (target : Bytes) (now : Time) :
    LeavesRegistration agent (agent.call id target now).2 :=
  let ⟨_, turn⟩ := CallTurn.call agent id target now
  CallTurn.leaves (.call id target now) turn

theorem answer (id : Int32) (now : Time) : LeavesRegistration agent (agent.answer id now).2 :=
  let ⟨_, turn⟩ := CallTurn.answer agent id now
  CallTurn.leaves (.answer id now) turn

theorem reject (id : Int32) (status : Int) : LeavesRegistration agent (agent.reject id status).2 :=
  let ⟨_, turn⟩ := CallTurn.reject agent id status
  CallTurn.leaves (.reject id status) turn

theorem hangup (id : Int32) (now : Time) : LeavesRegistration agent (agent.hangup id now).2 :=
  let ⟨_, _, _, first, second⟩ :=
    CallTurn.hangup agent id now fun _ _ => And.intro
  (CallTurn.leaves (.hangup id now) first).trans (CallTurn.leaves (.hangup id now) second)

theorem awaitAck (now : Time) : LeavesRegistration agent (agent.awaitAck now) :=
  let ⟨_, turn⟩ := CallTurn.awaitAck agent now
  CallTurn.leaves (.timer now) turn

end LeavesRegistration

/-- What a datagram does to the registration: nothing, a change of timers, or the end of a
REGISTER. -/
theorem UserAgent.onMessage_cases (agent : UserAgent Host) (datagram : Bytes) (now : Time) :
    LeavesRegistration agent (agent.onMessage datagram now) ∨
    (∃ response transaction, agent.Answers datagram response transaction ∧
      transaction.onFinal.isRegister = true ∧ response.status < 200 ∧
      agent.onMessage datagram now =
        { agent with transactions := agent.transactions.put (transaction.proceed now) }) ∨
    (∃ response transaction expires authenticated, agent.Answers datagram response transaction ∧
      transaction.onFinal = .register expires authenticated ∧ 200 ≤ response.status ∧
      agent.onMessage datagram now =
        (agent.without transaction).onRegisterFinal (some response) expires authenticated now) := by
  cases parsed : parseMessage datagram with
  | none =>
    refine Or.inl ?_
    unfold onMessage
    rw [parsed]
    exact .refl agent
  | some heard =>
    by_cases registered : ∃ transaction, agent.Answers datagram heard transaction ∧
        transaction.onFinal.isRegister = true
    · obtain ⟨transaction, answers, register⟩ := registered
      obtain ⟨expires, authenticated, handler⟩ := Transaction.exists_register_of_isRegister register
      rw [agent.onMessage_register answers handler now]
      split
      next provisional =>
        exact Or.inr (Or.inl ⟨heard, transaction, answers, register, provisional, rfl⟩)
      next final =>
        exact Or.inr (Or.inr ⟨heard, transaction, expires, authenticated, answers, handler,
          Int.not_lt.mp final, rfl⟩)
    · obtain ⟨added, turn⟩ := CallTurn.onMessage agent parsed (fun transaction answers => by
        rw [← Bool.not_eq_true]
        exact fun register => registered ⟨transaction, answers, register⟩) now
      rw [← Op.cause_of_parsed parsed now] at turn
      exact Or.inl (CallTurn.leaves (.message datagram now) turn)

/-- Only `call` begins an outgoing call. -/
theorem UserAgent.begins_of_not_call (agent : UserAgent Host) (op : Op)
    (other : ∀ id target now, op ≠ .call id target now) (id : Int32) (sipCallId : Bytes) :
    Action.begin true id sipCallId ∉ agent.asked op := by
  intro begins
  let allowed (action : Action) : Prop := action ≠ .begin true id sipCallId
  have free (action : Action) (free : action.Free) : allowed action := by
    rintro rfl
    exact free.elim False.elim False.elim
  have permits : Permits allowed agent op := by
    cases op with
    | call id target now => exact absurd rfl (other id target now)
    | answer => exact fun _ _ _ _ _ => ⟨fun _ _ => nofun, fun _ => nofun⟩
    | message =>
      exact ⟨⟨fun _ _ _ _ _ _ _ => nofun, fun _ _ _ _ _ _ _ => nofun,
          fun _ _ _ _ _ _ _ _ _ _ _ _ => nofun⟩,
        fun _ _ _ _ _ => ⟨fun _ _ _ _ _ _ => nofun, fun _ _ _ _ _ _ _ _ => nofun,
          fun _ _ _ _ _ _ _ _ => nofun, fun _ _ _ _ _ _ _ => nofun,
          fun _ _ _ _ _ _ _ _ => nofun⟩⟩
    | timer => exact fun _ _ _ _ _ => nofun
    | _ => exact trivial
  exact asked_allowed free agent op permits begins rfl

end KetPhone.Core
