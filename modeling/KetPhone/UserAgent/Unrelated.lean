/-
This file bounds what other traffic can do while there is a call. Requests are told
apart by their Call-ID and responses by their branch and CSeq method. A datagram
that is neither a request of the call nor a response that is waited for is
dropped or answered at once. The one thing that reaches into the call is a repeated
acceptance: it is answered with the ACK that the call keeps.
-/

import KetPhone.UserAgent.CallSteps
import KetPhone.UserAgent.Conduct

namespace KetPhone.Core

open Sip List UserAgent

variable {Host : Type}

/-- A datagram that does not concern the call: a request with another Call-ID, a response to
nothing that is pending, or no message at all. -/
def UserAgent.Unrelated (agent : UserAgent Host) (call : Call) (datagram : Bytes) : Prop :=
  ∀ message, parseMessage datagram = some message →
    if message.isResponse then
      ∀ key, UserAgent.responseKey message = some key → agent.transactions.find key = none
    else message.headerOr "call-id" ≠ call.sipCallId

/-- Between two states the call, the registration and the transactions stayed as they were, and no
event was emitted. -/
structure Undisturbed (before after : UserAgent Host) : Prop where
  call : after.current = before.current
  registration : after.registration = before.registration
  transactions : after.transactions = before.transactions
  events : after.events = before.events

/-- What a datagram that does not concern the call is answered with: nothing, a response to that
request, or the ACK that the call keeps, for a 2xx with its Call-ID. -/
inductive Call.Replies (call : Call) (datagram : Bytes) : List Action → Prop
  | nothing : Replies call datagram []
  | response {request : Message} {response : Response}
      (parsed : parseMessage datagram = some request) (isRequest : request.isResponse = false)
      (answers : response.request = request) :
    Replies call datagram [.sendSip (.response response)]
  | ack {response : Message} {ack : Ack} (parsed : parseMessage datagram = some response)
      (isResponse : response.isResponse = true)
      (success : UserAgent.isSuccess response.status = true)
      (own : response.headerOr "call-id" = call.sipCallId) (kept : call.ack = some ack) :
    Replies call datagram [.sendSip ack.packet]

variable [UserAgentHost Host]

/-- A request of another call is dropped or answered. -/
theorem UserAgent.onRequest_foreign (agent : UserAgent Host) {request : Message} {call : Call}
    (present : agent.current = some call) (foreign : agent.sameCall request = none) :
    agent.onRequest request = agent ∨ ∃ (draws : Nat) (response : Response),
      response.request = request ∧
        agent.onRequest request = { agent with draws }.respond response := by
  have answered (status : Int) (tag : Bytes) : ∃ (draws : Nat) (response : Response),
      response.request = request ∧ agent.respond { request, status, toTag := tag } =
        { agent with draws }.respond response := ⟨agent.draws, _, rfl, rfl⟩
  have tagged (status : Int) (tag : Bytes) : ∃ (draws : Nat) (response : Response),
      response.request = request ∧ agent.drawn.respond { request, status, toTag := tag } =
        { agent with draws }.respond response := ⟨agent.draws + 1, _, rfl, rfl⟩
  unfold onRequest
  split
  · unfold onAck
    rw [foreign]
    exact Or.inl rfl
  refine Or.inr ?_
  split
  · exact answered 400 []
  split
  · unfold onInviteRequest
    have busy : (agent.current.isSome || agent.shuttingDown) = true := by
      rw [present]
      rfl
    rw [foreign]
    dsimp only
    rw [if_pos busy]
    exact tagged 486 _
  split
  · exact tagged 200 _
  split
  · unfold onBye
    rw [foreign]
    exact answered 481 []
  split
  · unfold onCancel
    rw [foreign]
    exact answered 481 []
  · exact answered 501 []

namespace UserAgent

variable {agent : UserAgent Host} {datagram : Bytes} {message : Message} {call : Call}

theorem undisturbed_request (present : agent.current = some call)
    (parsed : parseMessage datagram = some message) (isRequest : message.isResponse = false)
    (foreign : message.headerOr "call-id" ≠ call.sipCallId) (now : Time) :
    Undisturbed agent (agent.step (.message datagram now)) ∧
      call.Replies datagram (agent.asked (.message datagram now)) := by
  have other : agent.sameCall message = none := by
    unfold sameCall
    rw [present]
    exact Option.filter_some_neg (by simpa using foreign.symm)
  have step : agent.step (.message datagram now) = agent.onRequest message := by
    show agent.onMessage datagram now = _
    unfold onMessage
    rw [parsed]
    dsimp only
    rw [if_neg (Bool.eq_false_iff.mp isRequest)]
  rcases agent.onRequest_foreign present other with dropped | ⟨draws, response, answers, sent⟩
  · rw [asked_of_log (by rw [step, dropped, append_nil]), step, dropped]
    exact ⟨⟨rfl, rfl, rfl, rfl⟩, .nothing⟩
  · rw [asked_of_log (by rw [step, sent]; rfl), step, sent]
    exact ⟨⟨rfl, rfl, rfl, rfl⟩, .response parsed isRequest answers⟩

theorem undisturbed_response (present : agent.current = some call)
    (parsed : parseMessage datagram = some message) (isResponse : message.isResponse = true)
    (unmatched : ∀ key, responseKey message = some key → agent.transactions.find key = none)
    (now : Time) :
    Undisturbed agent (agent.step (.message datagram now)) ∧
      call.Replies datagram (agent.asked (.message datagram now)) := by
  have unanswered (transaction : Transaction) : ¬ agent.Answers datagram message transaction := by
    rintro ⟨-, -, key, read, found⟩
    exact nomatch (unmatched key read).symm.trans found
  have step := agent.onMessage_unanswered parsed unanswered now
  rw [if_pos isResponse] at step
  have quiet (same : agent.step (.message datagram now) = agent) :
      Undisturbed agent (agent.step (.message datagram now)) ∧
        call.Replies datagram (agent.asked (.message datagram now)) := by
    rw [asked_of_log (by rw [same, append_nil]), same]
    exact ⟨⟨rfl, rfl, rfl, rfl⟩, .nothing⟩
  split at step
  · exact quiet step
  next cseq accepts =>
    split at step
    next ack kept =>
      have again : agent.step (.message datagram now) = agent.sendRaw ack.packet := step
      obtain ⟨found, own, kept⟩ := Option.bind_eq_some_iff.mp kept
      obtain ⟨current, sameId⟩ := sameCall_eq_some own
      cases present.symm.trans current
      have success := (Option.filter_eq_some_iff.mp accepts).2
      rw [Bool.and_eq_true] at success
      rw [asked_of_log (by rw [again]; rfl), again]
      exact ⟨⟨rfl, rfl, rfl, rfl⟩, .ack parsed isResponse success.1 sameId.symm kept⟩
    · exact quiet step

end UserAgent

/-- In every state of a run that has a call, a datagram that does not concern it changes neither
the call nor the registration nor the transactions, emits nothing, and makes the agent send at most
one message, which is a response to that request or the ACK that the call keeps. -/
theorem unrelated_undisturbed (config : UserAgentConfig) (host : Host) (random : Random)
    (ops : List Op) (call : Call) (datagram : Bytes) (now : Time)
    (present : (run UserAgent.step (UserAgent.create config host random) ops).current = some call)
    (unrelated : (run UserAgent.step (UserAgent.create config host random) ops).Unrelated call
      datagram) :
    let agent := run UserAgent.step (UserAgent.create config host random) ops
    Undisturbed agent (agent.step (.message datagram now)) ∧
      call.Replies datagram (agent.asked (.message datagram now)) := by
  intro agent
  cases parsed : parseMessage datagram with
  | none =>
    have dropped : agent.step (.message datagram now) = agent := by
      show agent.onMessage datagram now = agent
      unfold onMessage
      rw [parsed]
    rw [asked_of_log (by rw [dropped, append_nil]), dropped]
    exact ⟨⟨rfl, rfl, rfl, rfl⟩, .nothing⟩
  | some message =>
    have unrelated := unrelated message parsed
    cases kind : message.isResponse with
    | true =>
      rw [if_pos kind] at unrelated
      exact undisturbed_response present parsed kind unrelated now
    | false =>
      rw [if_neg (Bool.eq_false_iff.mp kind)] at unrelated
      exact undisturbed_request present parsed kind unrelated now

/-- A BYE of a stranger's call. -/
def foreignBye : Bytes :=
  ascii "BYE sip:100@10.0.0.9:5062 SIP/2.0\r\n" ++
    ascii "Via: SIP/2.0/UDP 10.0.0.7:5060;branch=z9hG4bKb\r\n" ++
    ascii "From: <sip:107@10.0.0.7>;tag=b\r\n" ++
    ascii "To: <sip:100@10.0.0.1>;tag=3\r\n" ++
    ascii "Call-ID: b@10.0.0.7\r\n" ++
    ascii "CSeq: 1 BYE\r\n\r\n"

/-- `UserAgent.ideal` calls. -/
def occupied : UserAgent IdealHost := run UserAgent.step UserAgent.ideal [.call 1 (ascii "101") 0]

/-- The BYE does not end the call. -/
theorem strangerBye_undisturbed :
    ∃ call, occupied.current = some call ∧
      Undisturbed occupied (occupied.step (.message foreignBye 1)) ∧
      call.Replies foreignBye (occupied.asked (.message foreignBye 1)) := by
  have named : occupied.current.map Call.sipCallId = some (ascii "2@ketphone") := by
    decide +kernel
  have read : (parseMessage foreignBye).map (fun message =>
      (message.isResponse, message.headerOr "call-id")) = some (false, ascii "b@10.0.0.7") := by
    decide +kernel
  obtain ⟨call, present, own⟩ := Option.map_eq_some_iff.mp named
  refine ⟨call, present, unrelated_undisturbed _ _ _ [.call 1 (ascii "101") 0] call foreignBye 1
    present fun message parsed => ?_⟩
  rw [parsed, Option.map_some, Option.some.injEq, Prod.mk.injEq] at read
  rw [if_neg (Bool.eq_false_iff.mp read.1), read.2, own]
  decide

end KetPhone.Core
