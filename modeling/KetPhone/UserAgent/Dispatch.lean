/-
This file models how `core/user_agent.cpp` is driven: the connection and timer
events of the engine's loop, and the messages that arrive. The last section makes
all of it one machine that takes one operation at a time.
-/

import KetPhone.UserAgent.Calls
import KetPhone.UserAgent.Registration

namespace KetPhone.Core

open Sip

namespace UserAgent

variable {Host : Type} [UserAgentHost Host]

/-- Runs the handler of a transaction that is over. -/
def runFinal (handler : FinalHandler) (response : Option Message) (now : Time)
    (agent : UserAgent Host) : UserAgent Host :=
  match handler with
  | .register expires authenticated => agent.onRegisterFinal response expires authenticated now
  | .invite context => agent.onInviteFinal context response now
  | .ignore => agent

def shutdown (now : Time) (agent : UserAgent Host) : UserAgent Host :=
  let closing := { agent with shuttingDown := true }
  let ended := match closing.current with
    | none => closing
    | some call => (closing.hangup call.id now).2
  ended.stopRegistration now

/-! ### Connections -/

def onTransportDown (now : Time) (agent : UserAgent Host) : UserAgent Host :=
  let failed := agent.transactions.values.foldl
    (fun agent transaction => agent.runFinal transaction.onFinal none now)
    { agent with transactions := OrderedMap.empty }
  if failed.registration.registered then
    { failed with registration := { failed.registration with registered := false } }.emit
      { kind := .registration, status := 503 }
  else failed

def onTransportUp (now : Time) (agent : UserAgent Host) : UserAgent Host :=
  if agent.shuttingDown || !agent.registration.wanted || agent.registration.inFlight then agent
  else
    { agent with registration := { agent.registration with nextAttempt := none } }.sendRegister
      agent.config.registerExpires [] now

/-! ### Dispatch -/

def onResponse (response : Message) (now : Time) (agent : UserAgent Host) : UserAgent Host :=
  match parseCseq (response.headerOr "cseq") with
  | none => agent
  | some cseq =>
    let key := transactionKey (branchOf response) cseq.method
    match agent.transactions.find key with
    | none =>
      if isSuccess response.status && cseq.method = ascii "INVITE" then
        match (agent.sameCall response).bind Call.ack with
        | some ack => agent.sendRaw ack.packet
        | none => agent
      else agent
    | some transaction =>
      if response.status < 200 then
        let proceeding := { agent with
          transactions := agent.transactions.put (transaction.proceed now) }
        match transaction.onProvisional with
        | some id => proceeding.onInviteProvisional id response now
        | none => proceeding
      else
        { agent with transactions := agent.transactions.erase key }.runFinal transaction.onFinal
          (some response) now

/-- The end of the set-up of an incoming call. -/
def onAck (request : Message) (agent : UserAgent Host) : UserAgent Host :=
  match agent.sameCall request with
  | none => agent
  | some call =>
    if !call.outgoing && call.state = .answering then
      (agent.setCall { call with state := .confirmed }).emit
        { kind := .callAnswered
          callId := call.id
          status := 200
          remote := call.remoteUri
          remoteDisplayName := call.remoteDisplayName
          correlationId := call.correlationId }
    else agent

/-- Whether a request has the headers that an answer to it needs. -/
def wellAddressed (request : Message) : Bool :=
  (request.header "via").isSome && (request.header "from").isSome &&
    (request.header "to").isSome && (request.header "call-id").isSome &&
    (parseCseq (request.headerOr "cseq")).isSome

def onBye (request : Message) (agent : UserAgent Host) : UserAgent Host :=
  match agent.sameCall request with
  | none => agent.respond { request, status := 481 }
  | some _ => (agent.respond { request, status := 200 }).endCall .remoteHangup 0

def onCancel (request : Message) (agent : UserAgent Host) : UserAgent Host :=
  match agent.sameCall request with
  | none => agent.respond { request, status := 481 }
  | some call =>
    if call.outgoing then agent.respond { request, status := 481 }
    else
      let answered := agent.respond { request, status := 200, toTag := call.localTag }
      if call.state = .ringing then
        (answered.respond (inviteResponse call 487)).endCall .remoteCancelled 487
      else answered

def onRequest (request : Message) (agent : UserAgent Host) : UserAgent Host :=
  if request.method = ascii "ACK" then agent.onAck request
  else if !wellAddressed request then agent.respond { request, status := 400 }
  else if request.method = ascii "INVITE" then agent.onInviteRequest request
  else if request.method = ascii "OPTIONS" then
    agent.drawn.respond { request, status := 200, toTag := agent.nextHex 6 }
  else if request.method = ascii "BYE" then agent.onBye request
  else if request.method = ascii "CANCEL" then agent.onCancel request
  else agent.respond { request, status := 501 }

/-- Keep-alive packets and anything unparseable are dropped silently. -/
def onMessage (datagram : Bytes) (now : Time) (agent : UserAgent Host) : UserAgent Host :=
  match parseMessage datagram with
  | none => agent
  | some message =>
    if message.isResponse then agent.onResponse message now else agent.onRequest message

/-! ### Timers -/

/-- The loop of `on_timer` that sends requests again. -/
def retransmit (now : Time) (agent : UserAgent Host) : UserAgent Host :=
  let sent := agent.transactions.values.foldl (fun agent transaction =>
    if transaction.due now then agent.sendRaw transaction.packet else agent) agent
  { sent with
    transactions :=
      agent.transactions.change (·.backOff now) fun transaction => transaction.backOff_key now }

/-- The keys of the transactions whose time is over. -/
def expiredKeys (now : Time) (agent : UserAgent Host) : List Bytes :=
  (agent.transactions.values.filter fun transaction => transaction.deadline ≤ now).map
    Transaction.key

/-- Takes one transaction out and ends it without a response. -/
def expire (now : Time) (agent : UserAgent Host) (key : Bytes) : UserAgent Host :=
  match agent.transactions.find key with
  | none => agent
  | some transaction =>
    { agent with transactions := agent.transactions.erase key }.runFinal transaction.onFinal none
      now

/-- The wait for the ACK of an answered call. -/
def awaitAck (now : Time) (agent : UserAgent Host) : UserAgent Host :=
  match agent.current with
  | none => agent
  | some call =>
    if call.state ≠ .answering then agent
    else if call.ackDeadline ≤ now then (agent.sendBye call now).endCall .timeout 408
    else if call.resendAt ≤ now then
      let sent := match call.lastResponse with
        | some response => agent.respond response
        | none => agent
      let interval := min (call.resendInterval * 2) kT2
      sent.setCall { call with resendInterval := interval, resendAt := now + interval }
    else agent

/-- Registers again when it is time. -/
def refresh (now : Time) (agent : UserAgent Host) : UserAgent Host :=
  match agent.registration.nextAttempt with
  | none => agent
  | some attempt =>
    if agent.registration.wanted && attempt ≤ now && !agent.registration.inFlight then
      { agent with registration := { agent.registration with nextAttempt := none } }.sendRegister
        agent.config.registerExpires [] now
    else agent

def onTimer (now : Time) (agent : UserAgent Host) : UserAgent Host :=
  let expired := (agent.expiredKeys now).foldl (expire now) (agent.retransmit now)
  (expired.awaitAck now).refresh now

/-- The `consider` of `next_deadline`: the earlier of a time found so far and another. -/
def consider (next : Option Time) (time : Time) : Option Time :=
  match next with
  | none => some time
  | some earliest => if time < earliest then some time else next

def considerTransaction (next : Option Time) (transaction : Transaction) : Option Time :=
  let next := consider next transaction.deadline
  if transaction.retransmitting then consider next transaction.retransmitAt else next

def considerCall (next : Option Time) : Option Call → Option Time
  | none => next
  | some call =>
    if call.state = .answering then consider (consider next call.resendAt) call.ackDeadline
    else next

def considerRegistration (next : Option Time) (registration : Registration) : Option Time :=
  match registration.nextAttempt with
  | none => next
  | some attempt => if registration.wanted then consider next attempt else next

/-- The time at which `on_timer` next has something to do. -/
def nextDeadline (agent : UserAgent Host) : Option Time :=
  considerRegistration
    (considerCall (agent.transactions.values.foldl considerTransaction none) agent.current)
    agent.registration

def takeEvents (agent : UserAgent Host) : List Event × UserAgent Host :=
  (agent.events, { agent with events := [] })

/-! ### Runs -/

/-- The agent that the constructor makes. -/
def create (config : UserAgentConfig) (host : Host) (random : Random) : UserAgent Host :=
  { config
    host
    random
    draws := 2
    transactions := OrderedMap.empty
    registration :=
      { callId := random.hex 0 12 ++ ascii "@ketphone"
        fromTag := random.hex 1 6 }
    current := none
    events := []
    shuttingDown := false
    log := [] }

/-- An account of a server at 10.0.0.1, on an ideal host. -/
def ideal : UserAgent IdealHost :=
  create
    { domain := ascii "10.0.0.1"
      extension := ascii "100"
      password := ascii "secret"
      localAddress := ascii "10.0.0.9"
      localPort := 5062
      userAgent := ascii "ketphone"
      correlationHeader := [] } {} Random.counting

end UserAgent

/-- A response to a REGISTER of `UserAgent.ideal`, with more headers. -/
def registerAnswered (status branch cseq more : String) : Bytes :=
  ascii "SIP/2.0 " ++ ascii status ++ ascii "\r\n" ++
    ascii "Via: SIP/2.0/UDP 10.0.0.9:5062;branch=" ++ ascii branch ++ ascii ";rport\r\n" ++
    ascii "From: <sip:100@10.0.0.1>;tag=1\r\n" ++
    ascii "To: <sip:100@10.0.0.1>;tag=s\r\n" ++
    ascii "Call-ID: 0@ketphone\r\n" ++
    ascii "CSeq: " ++ ascii cseq ++ ascii " REGISTER\r\n" ++ ascii more ++ ascii "\r\n"

/-- The acceptance of its first REGISTER. -/
def firstAccepted : Bytes := registerAnswered "200 OK" "z9hG4bK2" "1" "Expires: 300\r\n"

/-- A response to its first INVITE when it calls 101, with more headers and a body. -/
def dialledAnswered (status more body : String) : Bytes :=
  ascii "SIP/2.0 " ++ ascii status ++ ascii "\r\n" ++
    ascii "Via: SIP/2.0/UDP 10.0.0.9:5062;branch=z9hG4bK5;rport\r\n" ++
    ascii "From: <sip:100@10.0.0.1>;tag=3\r\n" ++
    ascii "To: <sip:101@10.0.0.1>;tag=s\r\n" ++
    ascii "Call-ID: 2@ketphone\r\n" ++
    ascii "CSeq: 1 INVITE\r\n" ++ ascii more ++ ascii "\r\n" ++ ascii body

/-- What happens to the agent: the application's commands, and what the engine's loop brings. -/
inductive Op where
  | startRegistration (now : Time)
  | stopRegistration (now : Time)
  | call (id : Int32) (target : Bytes) (now : Time)
  | answer (id : Int32) (now : Time)
  | reject (id : Int32) (status : Int)
  | hangup (id : Int32) (now : Time)
  | shutdown (now : Time)
  | transportDown (now : Time)
  | transportUp (now : Time)
  | message (datagram : Bytes) (now : Time)
  | timer (now : Time)
  | takeEvents

def UserAgent.step {Host : Type} [UserAgentHost Host] (agent : UserAgent Host) :
    Op → UserAgent Host
  | .startRegistration now => agent.startRegistration now
  | .stopRegistration now => agent.stopRegistration now
  | .call id target now => (agent.call id target now).2
  | .answer id now => (agent.answer id now).2
  | .reject id status => (agent.reject id status).2
  | .hangup id now => (agent.hangup id now).2
  | .shutdown now => agent.shutdown now
  | .transportDown now => agent.onTransportDown now
  | .transportUp now => agent.onTransportUp now
  | .message datagram now => agent.onMessage datagram now
  | .timer now => agent.onTimer now
  | .takeEvents => agent.takeEvents.2

end KetPhone.Core
