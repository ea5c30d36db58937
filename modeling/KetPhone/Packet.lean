/-
This file models what the user agent sends: the requests and responses that
`core/user_agent.cpp` builds from its configuration. A packet keeps the parts it
was built from, so that later proofs can speak of the method, the branch or the
status of what was sent; `Packet.bytes` renders the bytes that go to the server.
-/

import KetPhone.Message
import KetPhone.Sdp

namespace KetPhone.Core

open Sip

structure UserAgentConfig where
  domain : Bytes
  extension : Bytes
  password : Bytes
  localAddress : Bytes
  localPort : UInt16 := 0
  transport : Bytes := ascii "UDP"
  srtp : Bool := false
  registerExpires : UInt32 := 300
  userAgent : Bytes
  correlationHeader : Bytes
  deriving DecidableEq, Repr

def kAllow : Bytes := ascii "INVITE, ACK, CANCEL, BYE, OPTIONS"

/-- A header with a tag, unless it has one. -/
def tagged (header tag : Bytes) : Bytes :=
  if (paramOf header "tag").isSome then header else header ++ ascii ";tag=" ++ tag

/-- The branch of the top Via, which may share a header line with others. -/
def branchOf (message : Message) : Bytes :=
  match message.header "via" with
  | none => []
  | some via => (paramOf (upTo (findByte 44 via) via) "branch").getD []

/-- An address with the brackets that a URI needs around IPv6 literals. -/
def sipHost (address : Bytes) : Bytes :=
  if (findByte 58 address).isSome ∧ ¬ (ascii "[").isPrefixOf address then
    ascii "[" ++ address ++ ascii "]"
  else address

namespace UserAgentConfig

variable (config : UserAgentConfig)

def aor : Bytes := ascii "sip:" ++ config.extension ++ ascii "@" ++ sipHost config.domain

def sentBy : Bytes :=
  sipHost config.localAddress ++
    (if config.localPort = 0 then [] else ascii ":" ++ decimal config.localPort.toNat)

def contact : Bytes :=
  ascii "<sip:" ++ config.extension ++ ascii "@" ++ config.sentBy ++ ascii ";transport=" ++
    lowercase config.transport ++ ascii ">"

def via (branch : Bytes) : Bytes :=
  ascii "SIP/2.0/" ++ config.transport ++ ascii " " ++ config.sentBy ++ ascii ";branch=" ++
    branch ++ ascii ";rport"

def reliable : Bool := config.transport ≠ ascii "UDP"

/-- The request URI of a REGISTER. -/
def registrar : Bytes := ascii "sip:" ++ sipHost config.domain

end UserAgentConfig

structure Request where
  method : Bytes
  uri : Bytes
  sender : Bytes
  recipient : Bytes
  callId : Bytes
  cseq : UInt32
  extra : List (Bytes × Bytes) := []
  body : Bytes := []
  deriving DecidableEq, Repr

/-- What the INVITE transaction needs to finish itself even after the call is gone. -/
structure InviteContext where
  callId : Int32
  uri : Bytes
  sender : Bytes
  sipCallId : Bytes
  cseq : UInt32
  branch : Bytes
  deriving DecidableEq

def buildRequest (config : UserAgentConfig) (request : Request) (branch : Bytes) : Bytes :=
  let start : MessageBuilder :=
    { startLine := request.method ++ ascii " " ++ request.uri ++ ascii " SIP/2.0" }
  let addressed := start.add "Via" (config.via branch)
    |>.add "Max-Forwards" (ascii "70")
    |>.add "From" request.sender
    |>.add "To" request.recipient
    |>.add "Call-ID" request.callId
    |>.add "CSeq" (decimal request.cseq.toNat ++ ascii " " ++ request.method)
  let contacted :=
    if request.method ≠ ascii "ACK" ∧ request.method ≠ ascii "CANCEL" then
      addressed.add "Contact" config.contact
    else addressed
  let extended := { contacted with headers := contacted.headers ++ request.extra }
  let named := extended.add "User-Agent" config.userAgent
  if request.body = [] then named.build
  else { named with contentType := ascii "application/sdp", body := request.body }.build

/-- An answer of this side to a request. -/
structure Response where
  request : Message
  status : Int
  toTag : Bytes := []
  body : Bytes := []
  deriving DecidableEq

def buildResponse (config : UserAgentConfig) (response : Response) : Bytes :=
  let request := response.request
  let status := response.status
  let start : MessageBuilder :=
    { startLine := ascii "SIP/2.0 " ++ decimalInt status ++ ascii " " ++ reasonPhrase status }
  let routed := (request.headerAll "via").foldl (·.add "Via" ·) start
  let recipient := request.headerOr "to"
  let addressed := routed.add "From" (request.headerOr "from")
    |>.add "To" (if response.toTag ≠ [] ∧ 100 < status then tagged recipient response.toTag
      else recipient)
    |>.add "Call-ID" (request.headerOr "call-id")
    |>.add "CSeq" (request.headerOr "cseq")
  let contacted :=
    if request.method = ascii "INVITE" ∧ status < 300 then addressed.add "Contact" config.contact
    else addressed
  let allowed :=
    if request.method = ascii "OPTIONS" ∨ status = 501 then contacted.add "Allow" kAllow
    else contacted
  let named := allowed.add "User-Agent" config.userAgent
  if response.body = [] then named.build
  else { named with contentType := ascii "application/sdp", body := response.body }.build

/-- The ACK of a failed INVITE, which `send_ack_for_failure` sends in the transaction of that
INVITE. -/
def buildAckForFailure (config : UserAgentConfig) (context : InviteContext) (recipient : Bytes) :
    Bytes :=
  let start : MessageBuilder := { startLine := ascii "ACK " ++ context.uri ++ ascii " SIP/2.0" }
  start.add "Via" (config.via context.branch)
    |>.add "Max-Forwards" (ascii "70")
    |>.add "From" context.sender
    |>.add "To" recipient
    |>.add "Call-ID" context.sipCallId
    |>.add "CSeq" (decimal context.cseq.toNat ++ ascii " ACK")
    |>.add "User-Agent" config.userAgent
    |>.build

/-- The ACK of a 2xx, which this side keeps to send it again. -/
structure Ack where
  request : Request
  branch : Bytes
  isAck : request.method = ascii "ACK"
  bodyless : request.body = []
  deriving DecidableEq

/-- A message of this side with the parts it is built from. -/
inductive Packet where
  | request (request : Request) (branch : Bytes)
  | response (response : Response)
  | ackForFailure (context : InviteContext) (recipient : Bytes)
  deriving DecidableEq

def Ack.packet (ack : Ack) : Packet := .request ack.request ack.branch

def Packet.bytes (config : UserAgentConfig) : Packet → Bytes
  | .request content branch => buildRequest config content branch
  | .response answer => buildResponse config answer
  | .ackForFailure context recipient => buildAckForFailure config context recipient

end KetPhone.Core
