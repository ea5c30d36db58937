/-
This file models the registration part of `core/user_agent.cpp`: keeping the
account registered while that is wanted, and unregistering.
-/

import KetPhone.UserAgent.State

namespace KetPhone.Core

open Sip

namespace UserAgent

variable {Host : Type} [UserAgentHost Host]

/-- The REGISTER with the next CSeq number. -/
def registerRequest (expires : UInt32) (authorization : Bytes) (agent : UserAgent Host) : Request :=
  { method := ascii "REGISTER"
    uri := agent.config.registrar
    sender := ascii "<" ++ agent.config.aor ++ ascii ">;tag=" ++ agent.registration.fromTag
    recipient := ascii "<" ++ agent.config.aor ++ ascii ">"
    callId := agent.registration.callId
    cseq := agent.registration.cseq
    extra := [(ascii "Expires", decimal expires.toNat), (ascii "Allow", kAllow)] ++
      authorizationHeader authorization }

def sendRegister (expires : UInt32) (authorization : Bytes) (now : Time) (agent : UserAgent Host) :
    UserAgent Host :=
  { agent with
    registration := { agent.registration with
      cseq := agent.registration.cseq + 1
      inFlight := true } }.sendRequest (agent.registerRequest expires authorization) now
    (.register expires (authorization ≠ [])) none [] fun _ _ => ⟨rfl, rfl, rfl, rfl⟩

def startRegistration (now : Time) (agent : UserAgent Host) : UserAgent Host :=
  if agent.shuttingDown then agent
  else
    let wanting := { agent with
      registration := { agent.registration with wanted := true, nextAttempt := none } }
    if agent.registration.inFlight then wanting
    else wanting.sendRegister agent.config.registerExpires [] now

def stopRegistration (now : Time) (agent : UserAgent Host) : UserAgent Host :=
  let stopped := { agent with
    registration := { agent.registration with wanted := false, nextAttempt := none } }
  if agent.registration.registered || agent.registration.inFlight then
    { stopped with registration := { stopped.registration with registered := false } }.sendRegister
      0 [] now
  else stopped

/-- The lifetime that a success grants: its Expires header, else the parameter of the last contact
that is this side's. -/
def grantedExpires (config : UserAgentConfig) (response : Message) (expires : UInt32) : Nat :=
  match response.header "expires" with
  | some value => (parseInteger 32 value).getD expires.toNat
  | none =>
    (response.headerAll "contact").foldl (fun granted value =>
      if (findText config.localAddress (uriOf value)).isNone then granted
      else
        match paramOf value "expires" with
        | none => granted
        | some param => (parseInteger 32 param).getD granted) expires.toNat

def isSuccess (status : Int) : Bool := 200 ≤ status && status < 300

/-- Wrong credentials or a forbidden account will not fix themselves; transient failures might. -/
def isTransient (status : Int) : Bool := status == 408 || 500 ≤ status

/-- The end of a REGISTER that was wanted: the part of `on_register_final` that reports. -/
def concludeRegister (response : Option Message) (expires : UInt32) (now : Time)
    (agent : UserAgent Host) : UserAgent Host :=
  let status := (response.map Message.status).getD 408
  let nextAttempt :=
    if isSuccess status then
      let granted := (response.map (grantedExpires agent.config · expires)).getD expires.toNat
      some (now + max (seconds (granted / 2 : Nat)) kMinimumRefresh)
    else if isTransient status then some (now + kRegisterRetry)
    else agent.registration.nextAttempt
  { agent with
    registration := { agent.registration with
      registered := isSuccess status
      nextAttempt } }.emit { kind := .registration, status }

/-- The answer to a challenge of a REGISTER that carried no credentials, if there is one. -/
def answerChallenge (response : Option Message) (authenticated : Bool) (agent : UserAgent Host) :
    Option Bytes × UserAgent Host :=
  match response with
  | none => (none, agent)
  | some challenge =>
    if (challenge.status = 401 ∨ challenge.status = 407) ∧ !authenticated then
      agent.authorizationFor challenge (ascii "REGISTER") agent.config.registrar
    else (none, agent)

/-- The agent with no REGISTER in flight. -/
def landed (agent : UserAgent Host) : UserAgent Host :=
  { agent with registration := { agent.registration with inFlight := false } }

def onRegisterFinal (response : Option Message) (expires : UInt32) (authenticated : Bool)
    (now : Time) (agent : UserAgent Host) : UserAgent Host :=
  let (authorization, challenged) := agent.landed.answerChallenge response authenticated
  match authorization with
  | some line => challenged.sendRegister expires line now
  | none =>
    if expires = 0 then challenged
    else if !challenged.registration.wanted then
      if isSuccess ((response.map Message.status).getD 408) then challenged.sendRegister 0 [] now
      else challenged
    else challenged.concludeRegister response expires now

end UserAgent

end KetPhone.Core
