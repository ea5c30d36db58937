/-
This file models the call part of `core/user_agent.cpp`: outgoing and incoming
calls, from their INVITE to their end.
-/

import KetPhone.UserAgent.State

namespace KetPhone.Core

open Sip

namespace UserAgent

variable {Host : Type} [UserAgentHost Host]

/-! ### Ending calls -/

/-- The reason of a call that this side ends. -/
def ownReason (agent : UserAgent Host) : EndReason := if agent.shuttingDown then .shutdown else .own

def endCall (reason : EndReason) (status : Int) (agent : UserAgent Host) : UserAgent Host :=
  match agent.current with
  | none => agent
  | some call =>
    let closed := if call.mediaOpen then agent.closeMedia else agent
    { closed with current := none }.emit
      { kind := .callEnded
        callId := call.id
        status
        endReason := reason
        remote := call.remoteUri
        remoteDisplayName := call.remoteDisplayName }

def sendCancel (call : Call) (now : Time) (agent : UserAgent Host) : UserAgent Host :=
  (agent.setCall { call with cancelSent := true }).sendRequest
    { method := ascii "CANCEL"
      uri := call.inviteUri
      sender := call.localHeader
      recipient := ascii "<" ++ call.inviteUri ++ ascii ">"
      callId := call.sipCallId
      cseq := call.inviteCseq } now .ignore none call.inviteBranch
    fun _ _ => ⟨Or.inr rfl, rfl, rfl⟩

def sendBye (call : Call) (now : Time) (agent : UserAgent Host) : UserAgent Host :=
  (agent.setCall { call with localCseq := call.localCseq + 1 }).sendRequest
    { method := ascii "BYE"
      uri := call.remoteTarget
      sender := call.localHeader
      recipient := call.remoteHeader
      callId := call.sipCallId
      cseq := call.localCseq } now .ignore none [] fun _ _ => ⟨Or.inl rfl, rfl, rfl⟩

/-! ### Outgoing calls -/

/-- The INVITE with the call's next CSeq number. -/
def inviteRequest (call : Call) (authorization : Bytes) : Request :=
  { method := ascii "INVITE"
    uri := call.inviteUri
    sender := call.localHeader
    recipient := ascii "<" ++ call.inviteUri ++ ascii ">"
    callId := call.sipCallId
    cseq := call.localCseq
    extra := (ascii "Allow", kAllow) :: authorizationHeader authorization
    body := call.localSdp }

def inviteContext (call : Call) (branch : Bytes) : InviteContext :=
  { callId := call.id
    uri := call.inviteUri
    sender := call.localHeader
    sipCallId := call.sipCallId
    cseq := call.localCseq
    branch }

def sendInvite (call : Call) (authorization : Bytes) (now : Time) (agent : UserAgent Host) :
    UserAgent Host :=
  let branch := agent.freshBranch
  (agent.drawn.setCall { call with
    localCseq := call.localCseq + 1
    inviteCseq := call.localCseq
    inviteBranch := branch
    provisional := false }).sendRequest (inviteRequest call authorization) now
    (.invite (inviteContext call branch)) (some call.id) branch
    fun _ chosen => ⟨rfl, chosen.resolve_left agent.freshBranch_ne_nil, rfl, rfl, rfl, rfl, rfl,
      agent.freshBranch_ne_nil⟩

/-- Whether a target is one that `call` takes. -/
def validTarget (target : Bytes) : Bool :=
  !target.isEmpty && (findFirstOf (ascii " \t\r\n<>\"@;") target).isNone

/-- The call that `call` sets up, before its SRTP key is drawn. -/
def outgoingCall (id : Int32) (target : Bytes) (port : UInt16) (agent : UserAgent Host) : Call :=
  let uri := ascii "sip:" ++ target ++ ascii "@" ++ sipHost agent.config.domain
  let tag := agent.drawn.nextHex 6
  { id
    outgoing := true
    state := .calling
    sipCallId := agent.nextHex 12 ++ ascii "@ketphone"
    localTag := tag
    localHeader := ascii "<" ++ agent.config.aor ++ ascii ">;tag=" ++ tag
    remoteHeader := ascii "<" ++ uri ++ ascii ">"
    remoteUri := uri
    mediaOpen := port ≠ 0
    mediaPort := port
    sdpSession := (agent.random.u32 (agent.draws + 2)).toUInt64
    inviteUri := uri }

def call (id : Int32) (target : Bytes) (now : Time) (agent : UserAgent Host) :
    CommandResult × UserAgent Host :=
  if !validTarget target then (.invalidArgument, agent)
  else if agent.current.isSome || agent.shuttingDown then (.state, agent)
  else
    let (port, opened) := agent.openMedia
    let call := opened.outgoingCall id target port
    let begun := opened.drawn.drawn.drawn.beginCall call
    if port = 0 then (.ok, begun.endCall .mediaFailed 0)
    else
      let (keyed, call, keying) := begun.newSrtpKey call
      if !keyed then (.ok, (keying.setCall call).endCall .mediaFailed 0)
      else
        let (sdp, call) := agent.config.localSdpFor call none
        (.ok, keying.sendInvite { call with localSdp := sdp } [] now)

def onInviteProvisional (id : Int32) (response : Message) (now : Time) (agent : UserAgent Host) :
    UserAgent Host :=
  match agent.current with
  | none => agent
  | some call =>
    if call.id ≠ id ∨ call.state ≠ .calling then agent
    else
      let call := { call with provisional := true }
      if call.cancelRequested && !call.cancelSent then agent.sendCancel call now
      else if (response.status = 180 ∨ response.status = 183) ∧
          call.lastProgress ≠ response.status then
        (agent.setCall { call with lastProgress := response.status }).emit
          { kind := .callProgress
            callId := id
            status := response.status
            remote := call.remoteUri }
      else agent.setCall call

/-- The call that an INVITE belongs to, while it is the one the agent has. -/
def callOf (context : InviteContext) (agent : UserAgent Host) : Option Call :=
  agent.current.filter fun call =>
    call.id = context.callId && call.inviteBranch = context.branch

/-- Media of an answered call, or the end of the call when it cannot start. -/
def followAnswer (call : Call) (response : Message) (now : Time) (agent : UserAgent Host) :
    UserAgent Host :=
  match agent.config.usableAnswer response.body with
  | none => (agent.sendBye call now).endCall .mediaFailed 488
  | some (answer, key) =>
    let (started, begun) :=
      (agent.setCall call).startMedia (agent.config.remoteMediaFor call answer key)
    if started then
      begun.emit
        { kind := .callAnswered
          callId := call.id
          status := response.status
          remote := call.remoteUri }
    else (begun.sendBye call now).endCall .mediaFailed 488

/-- The ACK of a 2xx, on a branch of its own. -/
def ackRequest (context : InviteContext) (response : Message) : Request :=
  { method := ascii "ACK"
    uri := ((response.header "contact").map uriOf).getD context.uri
    sender := context.sender
    recipient := response.headerOr "to"
    callId := context.sipCallId
    cseq := context.cseq }

/-- `on_invite_final` for a 2xx. -/
def onInviteAccepted (context : InviteContext) (response : Message) (now : Time)
    (agent : UserAgent Host) : UserAgent Host :=
  let request := ackRequest context response
  let ack : Ack := { request, branch := agent.freshBranch, isAck := rfl, bodyless := rfl }
  let acknowledged := agent.drawn.sendRaw ack.packet
  match agent.callOf context with
  | none =>
    acknowledged.sendRequest
      { method := ascii "BYE"
        uri := request.uri
        sender := context.sender
        recipient := request.recipient
        callId := context.sipCallId
        cseq := context.cseq + 1 } now .ignore none [] fun _ _ => ⟨Or.inl rfl, rfl, rfl⟩
  | some call =>
    let call := { call with
      ack := some ack
      remoteHeader := request.recipient
      remoteTarget := request.uri
      state := .confirmed }
    if call.cancelRequested then
      (acknowledged.sendBye call now).endCall acknowledged.ownReason 0
    else acknowledged.followAnswer call response now

/-- `on_invite_final` for a failure, once it is acknowledged. -/
def onInviteRefused (context : InviteContext) (response : Message) (now : Time)
    (agent : UserAgent Host) : UserAgent Host :=
  match agent.callOf context with
  | none => agent
  | some call =>
    let (authorization, challenged) :=
      if (response.status = 401 ∨ response.status = 407) ∧
          !call.authenticated ∧ !call.cancelRequested then
        agent.authorizationFor response (ascii "INVITE") call.inviteUri
      else (none, agent)
    match authorization with
    | some line => challenged.sendInvite { call with authenticated := true } line now
    | none =>
      challenged.endCall (if call.cancelRequested then challenged.ownReason else .rejected)
        response.status

def onInviteFinal (context : InviteContext) (response : Option Message) (now : Time)
    (agent : UserAgent Host) : UserAgent Host :=
  match response with
  | none => if (agent.callOf context).isSome then agent.endCall .timeout 408 else agent
  | some response =>
    if response.status < 300 then agent.onInviteAccepted context response now
    else
      (agent.sendRaw (.ackForFailure context (response.headerOr "to"))).onInviteRefused context
        response now

/-! ### Incoming calls -/

/-- A re-INVITE inside the dialog: followed if it is usable. With SRTP the answer names the crypto
line it takes, so it is rebuilt; this side's key stays. -/
def followReinvite (call : Call) (request : Message) (agent : UserAgent Host) : UserAgent Host :=
  let refused (agent : UserAgent Host) := agent.respond { request, status := 488 }
  match if request.body = [] then none else parseAudio request.body with
  | none => refused agent
  | some offer =>
    match agent.config.acceptable offer with
    | none => refused agent
    | some key =>
      let (answer, call) :=
        if agent.config.srtp then agent.config.localSdpFor call (some offer)
        else (call.localSdp, call)
      let (started, moved) :=
        (agent.setCall call).startMedia (agent.config.remoteMediaFor call offer key)
      if started then
        (moved.setCall { call with localSdp := answer }).respond
          { request, status := 200, body := answer }
      else refused moved

/-- The call that an INVITE brings. -/
def incomingCall (config : UserAgentConfig) (id : Int32) (request : Message) (tag : Bytes)
    (offer : AudioDescription) : Call :=
  let sender := request.headerOr "from"
  { id
    outgoing := false
    state := .ringing
    sipCallId := request.headerOr "call-id"
    localTag := tag
    localHeader := tagged (request.headerOr "to") tag
    remoteHeader := sender
    remoteUri := uriOf sender
    remoteDisplayName := displayNameOf sender
    remoteTarget := ((request.header "contact").map uriOf).getD (uriOf sender)
    invite := some request
    offer
    correlationId := if config.correlationHeader = [] then []
      else (Headers.value request.headers (lowercase config.correlationHeader)).getD []
    lastResponse := some { request, status := 180, toTag := tag } }

/-- Rings for a new call. -/
def ring (request : Message) (tag : Bytes) (offer : AudioDescription) (agent : UserAgent Host) :
    UserAgent Host :=
  let (id, allocated) := agent.allocateCallId
  let call := incomingCall agent.config id request tag offer
  ((allocated.respond { request, status := 180, toTag := tag }).beginCall call).emit
    { kind := .callIncoming
      callId := id
      remote := call.remoteUri
      remoteDisplayName := call.remoteDisplayName
      correlationId := call.correlationId }

/-- The live call of a request's Call-ID. -/
def sameCall (request : Message) (agent : UserAgent Host) : Option Call :=
  agent.current.filter fun call => call.sipCallId = request.headerOr "call-id"

def onInviteRequest (request : Message) (agent : UserAgent Host) : UserAgent Host :=
  match agent.sameCall request with
  | some call =>
    if !call.outgoing && call.state ≠ .confirmed then
      match call.lastResponse with
      | some response => agent.respond response
      | none => agent
    else agent.followReinvite call request
  | none =>
    let tag := agent.nextHex 6
    if agent.current.isSome || agent.shuttingDown then
      agent.drawn.respond { request, status := 486, toTag := tag }
    else
      match parseAudio request.body with
      | none => agent.drawn.respond { request, status := 488, toTag := tag }
      | some offer =>
        match agent.config.acceptable offer with
        | none => agent.drawn.respond { request, status := 488, toTag := tag }
        | some _ => agent.drawn.ring request tag offer

/-- A response to the stored INVITE of an incoming call. -/
def inviteResponse (call : Call) (status : Int) : Response :=
  { request := call.invite.getD {}, status, toTag := call.localTag }

/-- The end of a call whose media could not be set up. -/
def failAnswer (call : Call) (agent : UserAgent Host) : UserAgent Host :=
  ((agent.setCall call).respond (inviteResponse call 500)).endCall .mediaFailed 500

/-- The last part of `answer`: media starts before the 200 goes out, so that keys the media layer
refuses never reach the far end. -/
def acceptRinging (call : Call) (now : Time) (agent : UserAgent Host) : UserAgent Host :=
  let key := (agent.config.acceptable call.offer).join
  let (started, begun) :=
    (agent.setCall call).startMedia (agent.config.remoteMediaFor call call.offer key)
  if !started then begun.failAnswer call
  else
    let (sdp, call) := agent.config.localSdpFor call (some call.offer)
    let response := { inviteResponse call 200 with body := sdp }
    (begun.setCall { call with
      localSdp := sdp
      lastResponse := some response
      state := .answering
      resendInterval := kT1
      resendAt := now + kT1
      ackDeadline := now + kTransactionTimeout }).respond response

/-- `answer` once the call is known to ring. -/
def answerRinging (call : Call) (now : Time) (agent : UserAgent Host) : UserAgent Host :=
  let (port, opened) := agent.openMedia
  let call := call.withMedia port (opened.random.u32 opened.draws)
  let ready := opened.drawn.setCall call
  if port = 0 then ready.failAnswer call
  else
    let (keyed, call, keying) := ready.newSrtpKey call
    if !keyed then keying.failAnswer call else keying.acceptRinging call now

def answer (id : Int32) (now : Time) (agent : UserAgent Host) : CommandResult × UserAgent Host :=
  match agent.current.filter fun call => call.id = id with
  | none => (.notFound, agent)
  | some call =>
    if call.outgoing || call.state ≠ .ringing then (.state, agent)
    else (.ok, agent.answerRinging call now)

def reject (id : Int32) (status : Int) (agent : UserAgent Host) : CommandResult × UserAgent Host :=
  if status < 400 ∨ 699 < status then (.invalidArgument, agent)
  else
    match agent.current.filter fun call => call.id = id with
    | none => (.notFound, agent)
    | some call =>
      if call.outgoing || call.state ≠ .ringing then (.state, agent)
      else
        (.ok, (agent.respond (inviteResponse call status)).endCall .own status)

/-- Gives up a call in set-up. CANCEL may only follow a provisional response; otherwise it goes
out when one arrives. -/
def giveUp (call : Call) (now : Time) (agent : UserAgent Host) : UserAgent Host :=
  if call.cancelRequested then agent
  else
    let call := { call with cancelRequested := true }
    if call.provisional then agent.sendCancel call now else agent.setCall call

def hangup (id : Int32) (now : Time) (agent : UserAgent Host) : CommandResult × UserAgent Host :=
  match agent.current.filter fun call => call.id = id with
  | none => (.notFound, agent)
  | some call =>
    (.ok, match call.state with
    | .calling =>
      let given := agent.giveUp call now
      if agent.shuttingDown then given.endCall agent.ownReason 0 else given
    | .ringing =>
      (agent.respond (inviteResponse call 603)).endCall agent.ownReason 603
    | .answering => (agent.sendBye call now).endCall agent.ownReason 0
    | .confirmed => (agent.sendBye call now).endCall agent.ownReason 0)

end UserAgent

end KetPhone.Core
