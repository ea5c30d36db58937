/-
This file asks whether media ever starts, or an INVITE is ever accepted, without
consent: the application's answer to an incoming call, the far end's answer to an
outgoing one, or a call that is already confirmed. The re-INVITE path chooses the
call by its Call-ID and takes every outgoing call for a dialog, so an INVITE with
the Call-ID of an outgoing call that still rings starts media. No other datagram
and no other operation does.
-/

import KetPhone.UserAgent.Changing
import KetPhone.UserAgent.Conduct

namespace KetPhone.Core

open Sip List UserAgent

variable {Host : Type}

/-! ### What counts as consent -/

/-- The application answers an incoming call. -/
def UserAgent.InAnswer (agent : UserAgent Host) (op : Op) : Prop :=
  ∃ id now call, op = .answer id now ∧ agent.current = some call ∧ call.id = id ∧
    call.outgoing = false

/-- A 2xx answers the current INVITE of the outgoing call. -/
def UserAgent.InAcceptance (agent : UserAgent Host) (op : Op) : Prop :=
  ∃ datagram now response transaction context call, op = .message datagram now ∧
    agent.Answers datagram response transaction ∧ transaction.onFinal = .invite context ∧
    UserAgent.isSuccess response.status = true ∧ agent.current = some call ∧
    call.outgoing = true ∧ call.id = context.callId ∧ call.inviteBranch = context.branch

/-- An INVITE arrives inside a confirmed call. -/
def UserAgent.InReinvite (agent : UserAgent Host) (op : Op) : Prop :=
  ∃ datagram now request call, op = .message datagram now ∧
    parseMessage datagram = some request ∧ request.isResponse = false ∧
    request.method = ascii "INVITE" ∧ agent.sameCall request = some call ∧
    call.state = .confirmed

/-- The responses among actions. -/
def Action.response? : Action → Option Response
  | .sendSip (.response response) => some response
  | _ => none

/-- An agent, and the responses that its application's answers sent so far. -/
structure Overseen (Host : Type) where
  agent : UserAgent Host
  granted : List Response

/-- No usable INVITE with the Call-ID of an outgoing call arrives before that call is confirmed. -/
def NoEarlyReinvite (overseen : Overseen Host) : Op → Prop
  | .message datagram _ => ∀ request call offer key, parseMessage datagram = some request →
      request.isResponse = false → request.method = ascii "INVITE" →
      UserAgent.wellAddressed request = true → overseen.agent.sameCall request = some call →
      call.outgoing = true → parseAudio request.body = some offer →
      overseen.agent.config.acceptable offer = some key → call.state = .confirmed
  | _ => True

variable [UserAgentHost Host]

def Overseen.step (overseen : Overseen Host) (op : Op) : Overseen Host :=
  { agent := overseen.agent.step op
    granted :=
      if op.answers then
        overseen.granted ++ (overseen.agent.asked op).filterMap Action.response?
      else overseen.granted }

/-- Media starts, and an INVITE is accepted, only with consent; an acceptance that an answer sent
may be sent again. -/
structure Consensual (overseen : Overseen Host) (op : Op) : Prop where
  starts : ∀ remote started, .startMedia remote started ∈ overseen.agent.asked op →
    overseen.agent.InAnswer op ∨ overseen.agent.InAcceptance op ∨ overseen.agent.InReinvite op
  accepts : ∀ response : Response, .sendSip (.response response) ∈ overseen.agent.asked op →
    response.Accepts → overseen.agent.InAnswer op ∨ overseen.agent.InReinvite op ∨
      response ∈ overseen.granted

/-! ### What the agent remembers -/

/-- An acceptance that the call keeps was granted, and only an outgoing call has an INVITE. -/
structure Mindful (overseen : Overseen Host) : Prop where
  granted : ∀ call response, overseen.agent.current = some call →
    call.lastResponse = some response → response.Accepts → response ∈ overseen.granted
  outgoing : ∀ call, overseen.agent.current = some call → call.outgoing = false →
    call.inviteBranch = []

/-- The same inside an operation, where an answer may have sent what the call keeps. -/
structure Backed (cause : Cause) (granted : List Response) (past : List Action)
    (agent : UserAgent Host) : Prop where
  granted : ∀ call response, agent.current = some call → call.lastResponse = some response →
    response.Accepts →
      response ∈ granted ∨ (∃ id, cause = .answers id) ∧ .sendSip (.response response) ∈ past
  outgoing : ∀ call, agent.current = some call → call.outgoing = false → call.inviteBranch = []

theorem Backed.step {cause : Cause} {granted : List Response} {past added : List Action}
    {before after : UserAgent Host} (step : CallStep cause added before after)
    (backed : Backed cause granted past before) : Backed cause granted (past ++ added) after := by
  refine ⟨fun call response present held accepts => ?_, fun call present incoming => ?_⟩
  · have carry {old : Call} (here : before.current = some old)
        (held : old.lastResponse = some response) :
        response ∈ granted ∨
          (∃ id, cause = .answers id) ∧ .sendSip (.response response) ∈ past ++ added :=
      (backed.granted old response here held accepts).imp_right fun sent =>
        ⟨sent.1, mem_append_left _ sent.2⟩
    cases step.comes present with
    | set here becomes => exact carry here (becomes.lastResponse ▸ held)
    | ring =>
      cases held
      exact absurd accepts (Action.routine_response 180 rfl (by decide))
    | dial _ dialling => exact nomatch dialling.lastResponse.symm.trans held
    | invite _ here => exact carry here held
    | accept answers _ _ stored sent =>
      rw [stored.lastResponse, Option.some.injEq] at held
      subst held
      exact Or.inr ⟨⟨_, answers⟩, mem_append_right _ sent⟩
  · cases step.comes present with
    | set here becomes =>
      rw [becomes.inviteBranch]
      exact backed.outgoing _ here (becomes.outgoing ▸ incoming)
    | ring => rfl
    | dial _ dialling => exact nomatch dialling.outgoing.symm.trans incoming
    | invite _ here sent => exact absurd (backed.outgoing _ here incoming) sent
    | accept _ here ringing accepts =>
      exact accepts.inviteBranch.trans (backed.outgoing _ here ringing.1)

theorem Mindful.step {overseen : Overseen Host} (mindful : Mindful overseen) (op : Op) :
    Mindful (overseen.step op) := by
  have start : Backed op.cause overseen.granted [] (overseen.agent.resending op) := by
    refine ⟨fun call response present kept accepts => Or.inl ?_, ?_⟩
    · exact mindful.granted call response (overseen.agent.resending_current op ▸ present) kept
        accepts
    · rw [overseen.agent.resending_current op]
      exact mindful.outgoing
  obtain ⟨added, steps⟩ := CallSteps.stepped overseen.agent op
  have backed := steps.record (Backed op.cause overseen.granted) Backed.step start
  refine ⟨fun call response present kept accepts => ?_, backed.outgoing⟩
  unfold Overseen.step
  dsimp only
  rcases backed.granted call response present kept accepts with old | ⟨⟨id, answers⟩, sent⟩
  · split
    · exact mem_append_left _ old
    · exact old
  · obtain ⟨now, rfl⟩ := Op.exists_of_answers answers
    rw [show (Op.answer id now).answers = true from rfl, if_pos rfl, overseen.agent.asked_eq,
      steps.started]
    exact mem_append_right _ (mem_filterMap.mpr ⟨_, mem_append_right _ sent, rfl⟩)

omit [UserAgentHost Host] in
theorem Mindful.create (config : UserAgentConfig) (host : Host) (random : Random) :
    Mindful ⟨UserAgent.create config host random, []⟩ :=
  ⟨fun _ _ (present : none = some _) => (nomatch present),
    fun _ (present : none = some _) => (nomatch present)⟩

/-! ### Which operations start media or accept -/

theorem Action.Free.not_startMedia {remote : RemoteMedia} {started : Bool} :
    ¬ Action.Free (.startMedia remote started) :=
  fun free => free.elim id id

theorem Action.Free.not_accepts {response : Response}
    (free : Action.Free (.sendSip (.response response))) : ¬ response.Accepts :=
  free.elim id nofun

/-- An action that the operation may take. -/
def Overseen.Allows (overseen : Overseen Host) (op : Op) : Action → Prop
  | .startMedia _ _ => overseen.agent.InAnswer op ∨ overseen.agent.InAcceptance op ∨
      overseen.agent.InReinvite op
  | .sendSip (.response response) => response.Accepts → overseen.agent.InAnswer op ∨
      overseen.agent.InReinvite op ∨ response ∈ overseen.granted
  | _ => True

omit [UserAgentHost Host] in
theorem Overseen.allows_free (overseen : Overseen Host) (op : Op) (action : Action)
    (free : action.Free) : overseen.Allows op action := by
  match action with
  | .startMedia _ _ => exact absurd free Action.Free.not_startMedia
  | .sendSip (.response response) => exact fun accepts => absurd accepts free.not_accepts
  | .sendSip (.request _ _) | .sendSip (.ackForFailure _ _) | .openMedia _ | .closeMedia
  | .emit _ | .begin _ _ _ => exact trivial

omit [UserAgentHost Host] in
/-- Without early re-INVITEs the call that a usable one belongs to is confirmed. -/
theorem Overseen.inReinvite (overseen : Overseen Host) {datagram : Bytes} {request : Message}
    {call : Call} {offer : AudioDescription} {key : Option SdesCrypto} {now : Time}
    (inTime : NoEarlyReinvite overseen (.message datagram now)) (time : Time)
    (parsed : parseMessage datagram = some request) (isRequest : request.isResponse = false)
    (invite : request.method = ascii "INVITE")
    (addressed : wellAddressed request = true)
    (same : overseen.agent.sameCall request = some call)
    (inDialog : call.outgoing = true ∨ call.state = .confirmed)
    (usable : parseAudio request.body = some offer)
    (chosen : overseen.agent.config.acceptable offer = some key) :
    overseen.agent.InReinvite (.message datagram time) := by
  refine ⟨datagram, time, request, call, rfl, parsed, isRequest, invite, same, ?_⟩
  rcases inDialog with outgoing | confirmed
  · exact inTime request call offer key parsed isRequest invite addressed same outgoing
      usable chosen
  · exact confirmed

omit [UserAgentHost Host] in
theorem Overseen.permits (overseen : Overseen Host) (mindful : Mindful overseen) (op : Op)
    (inTime : NoEarlyReinvite overseen op) : Permits (overseen.Allows op) overseen.agent op := by
  cases op with
  | answer id now =>
    intro call present named incoming _
    have consent : overseen.agent.InAnswer (.answer id now) :=
      ⟨id, now, call, rfl, present, named, incoming⟩
    exact ⟨fun _ _ => Or.inl consent, fun _ _ => Or.inl consent⟩
  | timer now =>
    exact fun call response present _ kept accepts =>
      Or.inr (Or.inr (mindful.granted call response present kept accepts))
  | message datagram now =>
    refine ⟨⟨fun _ _ _ _ _ _ _ => trivial, fun _ _ _ _ _ _ _ => trivial, ?_⟩,
      fun request parsed isRequest invite addressed =>
        ⟨fun call response same _ _ kept accepts => ?_, fun call offer key _ same inDialog usable
          chosen => ?_, fun call offer key body same inDialog usable chosen _ => ?_,
          fun _ _ _ _ _ _ _ => trivial, fun _ _ _ _ _ _ _ _ => trivial⟩⟩
    · intro response transaction context call answer key started answers handler success found _
      obtain ⟨present, named, branch⟩ := callOf_eq_some found
      have outgoing : call.outgoing = true := by
        rw [← Bool.not_eq_false]
        intro incoming
        exact Transaction.branch_ne_nil handler
          (branch.symm.trans (mindful.outgoing call present incoming))
      exact Or.inr (Or.inl ⟨datagram, now, response, transaction, context, call, rfl, answers,
        handler, success, present, outgoing, named, branch⟩)
    · exact Or.inr (Or.inr (mindful.granted call response (sameCall_eq_some same).1 kept
        accepts))
    · exact Or.inr (Or.inr (overseen.inReinvite inTime now parsed isRequest invite addressed same
        inDialog usable chosen))
    · exact Or.inr (Or.inl (overseen.inReinvite inTime now parsed isRequest invite addressed same
        inDialog usable chosen))
  | call => exact fun _ => trivial
  | _ => exact trivial

/-- A usable INVITE inside an outgoing call makes the agent start media. -/
theorem startMedia_of_reinvite (agent : UserAgent Host) {datagram : Bytes} {request : Message}
    {call : Call} {offer : AudioDescription} {key : Option SdesCrypto} (now : Time)
    (parsed : parseMessage datagram = some request) (isRequest : request.isResponse = false)
    (invite : request.method = ascii "INVITE")
    (addressed : wellAddressed request = true)
    (same : agent.sameCall request = some call) (outgoing : call.outgoing = true)
    (usable : parseAudio request.body = some offer)
    (chosen : agent.config.acceptable offer = some key) :
    ∃ remote started, .startMedia remote started ∈ agent.asked (.message datagram now) := by
  have followed := agent.step_reinvite now parsed isRequest invite addressed same (Or.inl outgoing)
  obtain ⟨started, response, log, -⟩ := agent.followReinvite_log call usable chosen
  refine ⟨agent.config.remoteMediaFor call offer key, started, ?_⟩
  unfold UserAgent.asked
  rw [followed, log, drop_left]
  exact mem_cons_self

theorem consensual_iff_noEarlyReinvite (overseen : Overseen Host) (mindful : Mindful overseen)
    (op : Op) : Consensual overseen op ↔ NoEarlyReinvite overseen op := by
  constructor
  · intro consensual
    cases op with
    | message datagram now =>
      intro request call offer key parsed isRequest invite addressed same outgoing usable chosen
      obtain ⟨remote, started, starts⟩ := startMedia_of_reinvite overseen.agent now parsed isRequest
        invite addressed same outgoing usable chosen
      rcases consensual.starts remote started starts with
        ⟨_, _, _, equal, _⟩ | ⟨_, _, response, _, _, _, ⟨⟩, answers, _⟩ |
        ⟨_, _, other, found, ⟨⟩, again, -, -, here, confirmed⟩
      · cases equal
      · have both := parsed.symm.trans answers.1
        cases both
        exact absurd answers.2.1 (Bool.eq_false_iff.mp isRequest)
      · cases parsed.symm.trans again
        cases same.symm.trans here
        exact confirmed
    | _ => exact trivial
  · intro inTime
    have permits := overseen.permits mindful op inTime
    have allowed {action : Action} (member : action ∈ overseen.agent.asked op) :=
      asked_allowed (overseen.allows_free op) overseen.agent op permits member
    exact ⟨fun _ _ member => allowed member, fun _ member => allowed member⟩

/-- In a run every start of media and every acceptance has consent exactly when no usable INVITE
with the Call-ID of an outgoing call arrives before that call is confirmed. -/
theorem consensual_run_iff (config : UserAgentConfig) (host : Host) (random : Random)
    (ops : List Op) :
    StepsMeet Overseen.step Consensual ⟨UserAgent.create config host random, []⟩ ops ↔
      StepsMeet Overseen.step NoEarlyReinvite ⟨UserAgent.create config host random, []⟩ ops :=
  stepsMeet_congr Mindful (fun _ op mindful => mindful.step op)
    (fun overseen op mindful => consensual_iff_noEarlyReinvite overseen mindful op)
    (Mindful.create config host random)

/-- An INVITE with the Call-ID of the first call that `UserAgent.ideal` makes. -/
def earlyReinvite : Bytes :=
  ascii "INVITE sip:100@10.0.0.9:5062 SIP/2.0\r\n" ++
    ascii "Via: SIP/2.0/UDP 10.0.0.1:5060;branch=z9hG4bKs\r\n" ++
    ascii "From: <sip:101@10.0.0.1>;tag=s\r\n" ++
    ascii "To: <sip:100@10.0.0.1>\r\n" ++
    ascii "Call-ID: 2@ketphone\r\n" ++
    ascii "CSeq: 1 INVITE\r\n\r\n" ++
    ascii "v=0\r\nc=IN IP4 10.0.0.1\r\nm=audio 10000 RTP/AVP 8\r\n"

/-- An agent whose outgoing call nobody has answered. -/
def dialling : Overseen IdealHost :=
  Overseen.step ⟨UserAgent.ideal, []⟩ (.call 1 (ascii "101") 0)

/-- The far end of an unanswered call sends an INVITE of its own, and media starts. -/
theorem dialling_not_consensual :
    ¬ StepsMeet Overseen.step Consensual ⟨UserAgent.ideal, []⟩
      [.call 1 (ascii "101") 0, .message earlyReinvite 1] := by
  rintro ⟨-, consensual, -⟩
  have calling : dialling.agent.current.map Call.state = some .calling := by decide +kernel
  have request : (parseMessage earlyReinvite).map Message.isResponse = some false := by
    decide +kernel
  have starts : .startMedia ⟨ascii "10.0.0.1", 10000, none⟩ true ∈
      dialling.agent.asked (.message earlyReinvite 1) := by decide +kernel
  rcases consensual.starts _ _ starts with
    ⟨_, _, _, equal, _⟩ | ⟨_, _, _, _, _, _, ⟨⟩, answers, _⟩ |
    ⟨_, _, _, call, ⟨⟩, -, -, -, same, confirmed⟩
  · cases equal
  · rw [answers.1, Option.map_some, answers.2.1] at request
    cases request
  · have present : dialling.agent.current = some call := (sameCall_eq_some same).1
    rw [present, Option.map_some, confirmed] at calling
    cases calling

end KetPhone.Core
