/-
This file gives a full account of what the user agent does with its calls. Every
operation is a sequence of steps, one for each message, command, timer or ended
transaction, and each step says which call and which transactions it leaves and
what it asked of the agent's surroundings, in order. Only here is the code of calls
gone through; what holds of calls elsewhere is a matter of going through the steps.
What the registration does is one step here.
-/

import KetPhone.UserAgent.Effects
import KetPhone.UserAgent.Timers

namespace KetPhone.Core

open Sip List OrderedMap UserAgent

variable {Host : Type}

/-! ### Operations and their causes -/

/-- The operation is the application's consent to a call. -/
def Op.answers : Op → Bool
  | .answer _ _ => true
  | _ => false

/-- What a step may follow from. -/
inductive Cause
  | hears (message : Message)
  | dials (id : Int32)
  | answers (id : Int32)
  | hangsUp (id : Int32)
  | closes
  | ticks (now : Time)
  | otherwise

def Op.cause : Op → Cause
  | .message datagram _ => ((parseMessage datagram).map .hears).getD .otherwise
  | .call id _ _ => .dials id
  | .answer id _ => .answers id
  | .hangup id _ => .hangsUp id
  | .shutdown _ => .closes
  | .timer now => .ticks now
  | _ => .otherwise

theorem Op.cause_of_parsed {datagram : Bytes} {message : Message}
    (parsed : parseMessage datagram = some message) (now : Time) :
    Op.cause (.message datagram now) = .hears message := by
  show ((parseMessage datagram).map Cause.hears).getD .otherwise = _
  rw [parsed]
  rfl

theorem Op.cause_of_unparsed {datagram : Bytes} (unparsed : parseMessage datagram = none)
    (now : Time) : Op.cause (.message datagram now) = .otherwise := by
  show ((parseMessage datagram).map Cause.hears).getD .otherwise = _
  rw [unparsed]
  rfl

/-- The operation that a cause comes from. -/
theorem Op.of_cause (op : Op) :
    match op.cause with
    | .hears heard => ∃ datagram now,
      op = .message datagram now ∧ parseMessage datagram = some heard
    | .dials id => ∃ target now, op = .call id target now
    | .answers id => ∃ now, op = .answer id now
    | .ticks now => op = .timer now
    | _ => True := by
  cases op with
  | message datagram now =>
    cases parsed : parseMessage datagram with
    | none =>
      rw [cause_of_unparsed parsed]
      exact trivial
    | some message =>
      rw [cause_of_parsed parsed]
      exact ⟨datagram, now, rfl, parsed⟩
  | call id target now => exact ⟨target, now, rfl⟩
  | answer id now => exact ⟨now, rfl⟩
  | timer now => rfl
  | _ => exact trivial

theorem Op.exists_of_hears {op : Op} {message : Message} (cause : op.cause = .hears message) :
    ∃ datagram now, op = .message datagram now ∧ parseMessage datagram = some message := by
  have source := op.of_cause
  rwa [cause] at source

theorem Op.exists_of_dials {op : Op} {id : Int32} (cause : op.cause = .dials id) :
    ∃ target now, op = .call id target now := by
  have source := op.of_cause
  rwa [cause] at source

theorem Op.exists_of_answers {op : Op} {id : Int32} (cause : op.cause = .answers id) :
    ∃ now, op = .answer id now := by
  have source := op.of_cause
  rwa [cause] at source

theorem Op.eq_of_ticks {op : Op} {now : Time} (cause : op.cause = .ticks now) :
    op = .timer now := by
  have source := op.of_cause
  rwa [cause] at source

/-- The causes that end a call with a BYE. -/
def Cause.Dismisses (cause : Cause) (call : Call) : Prop :=
  match cause with
  | .hangsUp id => call.id = id ∧ (call.state = .answering ∨ call.state = .confirmed)
  | .closes => call.state = .answering ∨ call.state = .confirmed
  | .ticks now => call.state = .answering ∧ call.ackDeadline ≤ now
  | _ => False

/-- A call that was just dialled, before its INVITE is sent. -/
structure Call.Dialling (call : Call) : Prop where
  outgoing : call.outgoing = true
  state : call.state = .calling
  localCseq : call.localCseq = 1
  mediaOpen : call.mediaOpen = true
  authenticated : call.authenticated = false
  cancelRequested : call.cancelRequested = false
  cancelSent : call.cancelSent = false
  ack : call.ack = none
  invite : call.invite = none
  lastResponse : call.lastResponse = none

/-! ### Steps -/

/-- A pending transaction is answered by a response. -/
structure UserAgent.Heard (agent : UserAgent Host) (cause : Cause) (response : Message)
    (transaction : Transaction) : Prop where
  message : cause = .hears response
  isResponse : response.isResponse = true
  key : UserAgent.responseKey response = some transaction.key
  pending : transaction ∈ agent.transactions.values

/-- A request that the agent can answer. -/
structure Asks (cause : Cause) (request : Message) (method : String) : Prop where
  message : cause = .hears request
  isRequest : request.isResponse = false
  method : request.method = ascii method
  addressed : UserAgent.wellAddressed request = true

/-- What becomes of a provisional response to an INVITE: the call with its id notes it, or there is
no such call any more. -/
inductive UserAgent.Notes (agent : UserAgent Host) (id : Int32) (after : UserAgent Host) : Prop
  | ours {call next : Call} (present : agent.current = some call) (own : call.id = id)
      (calling : call.state = .calling) (current : after.current = some next)
      (waiting : next.state = .calling) (branch : next.inviteBranch = call.inviteBranch)
      (noted : next.provisional = true)
  | others (apart : ∀ call, agent.current = some call → call.id = id → call.state ≠ .calling)
      (current : after.current = agent.current)

/-- A transaction is over. One that was sent may have come in its place, an INVITE only on a branch
of its own. -/
def UserAgent.Replaces (agent after : UserAgent Host) (transaction : Transaction)
    (added : List Action) : Prop :=
  after.transactions = agent.transactions.erase transaction.key ∨
    ∃ next, after.transactions = (agent.transactions.erase transaction.key).put next ∧
      .sendSip next.packet ∈ added ∧
        (next.onFinal = .ignore ∨ ∃ context draw, next.onFinal = .invite context ∧
          context.branch = agent.random.branch draw ∧ agent.draws ≤ draw ∧ draw < after.draws)

/-- What the tag of a response may be. -/
def UserAgent.Tags (agent : UserAgent Host) (tag : Bytes) : Prop :=
  tag = [] ∨ tag = agent.nextHex 6 ∨ ∃ call, agent.current = some call ∧ tag = call.localTag

/-- The responses that change nothing. -/
inductive Reply (agent : UserAgent Host) (cause : Cause) (response : Response) : Prop
  | other (heard : cause = .hears response.request)
      (apart : response.request.method ≠ ascii "INVITE" ∨
        UserAgent.wellAddressed response.request = false) (bodyless : response.body = [])
      (denies : ¬ response.Accepts) (tagged : agent.Tags response.toTag)
      (known : 100 ≤ response.status ∧ response.status ≤ 699)
  | refuses (asks : Asks cause response.request "INVITE")
      (stranger : agent.sameCall response.request = none)
      (status : response.status = 486 ∨ response.status = 488) (bodyless : response.body = [])
      (tagged : agent.Tags response.toTag)
  | declines {call : Call} (asks : Asks cause response.request "INVITE")
      (same : agent.sameCall response.request = some call)
      (settled : call.outgoing = true ∨ call.state = .confirmed) (status : response.status = 488)
      (bodyless : response.body = []) (tagged : agent.Tags response.toTag)
  | again {call : Call} (present : agent.current = some call) (incoming : call.outgoing = false)
      (early : call.state ≠ .confirmed) (kept : call.lastResponse = some response)
      (asks : ∃ request, Asks cause request "INVITE" ∧ agent.sameCall request = some call)

/-- What media starts with when this side's INVITE is accepted. -/
def UserAgentConfig.Follows (config : UserAgentConfig) (call : Call) (response : Message)
    (remote : RemoteMedia) : Prop :=
  ∃ answer key, config.usableAnswer response.body = some (answer, key) ∧
    remote = config.remoteMediaFor call answer key

/-- The ACKs for a refusal among the actions name the recipient that a message gave. -/
def Cause.Names (cause : Cause) (context : InviteContext) (added : List Action) : Prop :=
  ∀ recipient, .sendSip (.ackForFailure context recipient) ∈ added →
    ∃ response, cause = .hears response ∧ recipient = response.headerOr "to"

/-- A call as it is dialled: the target, the SRTP key and the description of its INVITE. -/
def UserAgent.Composes (agent : UserAgent Host) (call : Call) : Prop :=
  ∃ (opened : UserAgent Host) (number srtpKey localSdp : Bytes) (port : UInt16)
    (sdpVersion : UInt64), opened.config = agent.config ∧ opened.random = agent.random ∧
      UserAgent.validTarget number = true ∧ srtpKey.length ≤ kSdesKeyLength ∧
        call = { opened.outgoingCall call.id number port with srtpKey, localSdp, sdpVersion }

section Steps

variable [UserAgentHost Host]

/-- What an operation asked of the agent's surroundings. -/
def UserAgent.asked (agent : UserAgent Host) (op : Op) : List Action :=
  (agent.step op).log.drop agent.log.length

theorem UserAgent.asked_of_log {agent : UserAgent Host} {op : Op} {added : List Action}
    (log : (agent.step op).log = agent.log ++ added) : agent.asked op = added := by
  unfold asked
  rw [log, drop_left]

/-- The requests that an operation sends again. -/
def UserAgent.resent (agent : UserAgent Host) : Op → List Action
  | .timer now => (agent.transactions.values.filter (·.due now)).map
      fun transaction => .sendSip transaction.packet
  | _ => []

/-- What an operation asked of the agent's surroundings besides sending requests again. -/
def UserAgent.started (agent : UserAgent Host) (op : Op) : List Action :=
  (agent.asked op).drop (agent.resent op).length

theorem UserAgent.started_eq {agent : UserAgent Host} {op : Op} {rest : List Action}
    (log : (agent.step op).log = agent.log ++ agent.resent op ++ rest) :
    agent.started op = rest := by
  unfold started asked
  rw [log, append_assoc, drop_left, drop_left]

/-- The agent once an operation has sent its requests again. -/
def UserAgent.resending (agent : UserAgent Host) : Op → UserAgent Host
  | .timer now => agent.retransmit now
  | _ => agent

/-- The turns that a call can take, each with what brought it about and with what it asked for. -/
inductive CallTurn (cause : Cause) : List Action → UserAgent Host → UserAgent Host → Prop
  | rests {before after : UserAgent Host}
      (does : Does before after before.current before.transactions []) :
    CallTurn cause [] before after
  | replies {before after : UserAgent Host} {response : Response}
      (reply : Reply before cause response)
      (does : Does before after before.current before.transactions
        [.sendSip (.response response)]) :
    CallTurn cause [.sendSip (.response response)] before after
  | acknowledges {before after : UserAgent Host} {call : Call} {ack : Ack}
      (present : before.current = some call) (kept : call.ack = some ack)
      (does : Does before after before.current before.transactions [.sendSip ack.packet])
      (unheard : ∃ response, cause = .hears response ∧ before.sameCall response = some call ∧
        ∀ transaction, ¬ before.Heard cause response transaction) :
    CallTurn cause [.sendSip ack.packet] before after
  | proceeds {before after : UserAgent Host} {response : Message} {transaction : Transaction}
      {now : Time} (heard : before.Heard cause response transaction)
      (provisional : response.status < 200)
      (apart : ∀ call, before.current = some call → transaction.onProvisional = some call.id →
        call.state ≠ .calling)
      (does : Does before after before.current (before.transactions.put (transaction.proceed now))
        [])
      (ours : transaction.onFinal.isRegister = false) :
    CallTurn cause [] before after
  | progresses {before after : UserAgent Host} {response : Message} {transaction : Transaction}
      {now : Time} {call : Call} {lastProgress : Int} {added : List Action}
      (heard : before.Heard cause response transaction) (provisional : response.status < 200)
      (present : before.current = some call) (own : transaction.onProvisional = some call.id)
      (calling : call.state = .calling)
      (settled : call.cancelRequested = true → call.cancelSent = true)
      (told : added = [] ∨ ∃ event : Event, event.kind = .callProgress ∧ event.callId = call.id ∧
        added = [.emit event])
      (does : Does before after (some { call with provisional := true, lastProgress })
        (before.transactions.put (transaction.proceed now)) added) :
    CallTurn cause added before after
  | cancelsLate {before after : UserAgent Host} {response : Message}
      {transaction cancel : Transaction} {now : Time} {call : Call} {branch : Bytes}
      (heard : before.Heard cause response transaction) (provisional : response.status < 200)
      (present : before.current = some call) (own : transaction.onProvisional = some call.id)
      (calling : call.state = .calling) (requested : call.cancelRequested = true)
      (unsent : call.cancelSent = false)
      (named : call.inviteBranch ≠ [] → branch = call.inviteBranch)
      (begun : cancel.Begun (cancelRequest call) branch .ignore)
      (does : Does before after (some { call with provisional := true, cancelSent := true })
        ((before.transactions.put (transaction.proceed now)).put cancel)
        [.sendSip cancel.packet])
      (drawn : call.inviteBranch = [] → Fresh before after branch) :
    CallTurn cause [.sendSip cancel.packet] before after
  | concludes {before after : UserAgent Host} {transaction : Transaction}
      (pending : transaction ∈ before.transactions.values)
      (ignored : transaction.onFinal = .ignore)
      (does : Does before after before.current (before.transactions.erase transaction.key) []) :
    CallTurn cause [] before after
  | forgets {before after : UserAgent Host} {transaction : Transaction} {context : InviteContext}
      {added : List Action} (pending : transaction ∈ before.transactions.values)
      (invites : transaction.onFinal = .invite context) (gone : before.callOf context = none)
      (sent : added = [] ∨ ∃ recipient, added = [.sendSip (.ackForFailure context recipient)])
      (does : Does before after before.current (before.transactions.erase transaction.key) added)
      (names : cause.Names context added) :
    CallTurn cause added before after
  | parts {before after : UserAgent Host} {response : Message} {transaction bye : Transaction}
      {context : InviteContext} {ack : Ack} {branch : Bytes}
      (heard : before.Heard cause response transaction)
      (accepts : UserAgent.isSuccess response.status = true)
      (invites : transaction.onFinal = .invite context) (gone : before.callOf context = none)
      (acknowledges : ack.request = UserAgent.ackRequest context response)
      (begun : bye.Begun (lateByeRequest context response) branch .ignore)
      (does : Does before after before.current
        ((before.transactions.erase transaction.key).put bye)
        [.sendSip ack.packet, .sendSip bye.packet])
      (drawn : Fresh before after branch) (numbered : ack.branch = before.freshBranch) :
    CallTurn cause [.sendSip ack.packet, .sendSip bye.packet] before after
  | fails {before after : UserAgent Host} {transaction : Transaction} {context : InviteContext}
      {call : Call} {sent : List Action} {reason : EndReason} {status : Int}
      (pending : transaction ∈ before.transactions.values)
      (invites : transaction.onFinal = .invite context)
      (own : before.callOf context = some call)
      (acknowledged : sent = [] ∨
        ∃ recipient, sent = [.sendSip (.ackForFailure context recipient)])
      (does : Does before after none (before.transactions.erase transaction.key)
        (sent ++ call.farewell reason status)) (names : cause.Names context sent) :
    CallTurn cause (sent ++ call.farewell reason status) before after
  | retries {before after : UserAgent Host} {transaction invite : Transaction}
      {context : InviteContext} {call : Call} {recipient line : Bytes} {draw : Nat}
      (pending : transaction ∈ before.transactions.values)
      (invites : transaction.onFinal = .invite context)
      (own : before.callOf context = some call) (unproven : call.authenticated = false)
      (wanted : call.cancelRequested = false) (drawn : before.draws ≤ draw ∧ draw < after.draws)
      (begun : invite.Begun
        (UserAgent.inviteRequest { call with authenticated := true } line)
        (before.random.branch draw)
        (.invite (UserAgent.inviteContext { call with authenticated := true }
          (before.random.branch draw))))
      (does : Does before after
        (some ({ call with authenticated := true }.invited (before.random.branch draw)))
        ((before.transactions.erase transaction.key).put invite)
        [.sendSip (.ackForFailure context recipient), .sendSip invite.packet])
      (names : ∃ response, cause = .hears response ∧ recipient = response.headerOr "to")
      (credentials : Credentials (fun challenge => cause = .hears challenge) before
        (ascii "INVITE") call.inviteUri line) :
    CallTurn cause [.sendSip (.ackForFailure context recipient), .sendSip invite.packet] before
      after
  | connects {before after : UserAgent Host} {response : Message} {transaction : Transaction}
      {context : InviteContext} {call : Call} {ack : Ack} {remote : RemoteMedia} {event : Event}
      (heard : before.Heard cause response transaction)
      (accepts : UserAgent.isSuccess response.status = true)
      (invites : transaction.onFinal = .invite context)
      (own : before.callOf context = some call) (wanted : call.cancelRequested = false)
      (acknowledges : ack.request = UserAgent.ackRequest context response)
      (told : event.kind = .callAnswered ∧ event.callId = call.id)
      (does : Does before after (some (call.confirm ack))
        (before.transactions.erase transaction.key)
        [.sendSip ack.packet, .startMedia remote true, .emit event])
      (follows : before.config.Follows call response remote)
      (numbered : ack.branch = before.freshBranch) :
    CallTurn cause [.sendSip ack.packet, .startMedia remote true, .emit event] before after
  | drops {before after : UserAgent Host} {response : Message} {transaction bye : Transaction}
      {context : InviteContext} {call : Call} {ack : Ack} {branch : Bytes} {media : List Action}
      {reason : EndReason} {status : Int} (heard : before.Heard cause response transaction)
      (accepts : UserAgent.isSuccess response.status = true)
      (invites : transaction.onFinal = .invite context)
      (own : before.callOf context = some call)
      (acknowledges : ack.request = UserAgent.ackRequest context response)
      (refused : media = [] ∨ ∃ remote, media = [.startMedia remote false])
      (begun : bye.Begun (byeRequest (call.confirm ack)) branch .ignore)
      (does : Does before after none ((before.transactions.erase transaction.key).put bye)
        (.sendSip ack.packet :: media ++ .sendSip bye.packet :: call.farewell reason status))
      (drawn : Fresh before after branch)
      (follows : ∀ remote started, .startMedia remote started ∈ media →
        before.config.Follows call response remote)
      (numbered : ack.branch = before.freshBranch) :
    CallTurn cause
      (.sendSip ack.packet :: media ++ .sendSip bye.packet :: call.farewell reason status) before
      after
  | dialFails {before after : UserAgent Host} {call : Call} {port : UInt16} {reason : EndReason}
      {status : Int} (idle : before.current = none) (outgoing : call.outgoing = true)
      (mediaOpen : call.mediaOpen = decide (port ≠ 0))
      (does : Does before after none before.transactions
        (.openMedia port :: .begin true call.id call.sipCallId :: call.farewell reason status))
      (dials : cause = .dials call.id) :
    CallTurn cause
      (.openMedia port :: .begin true call.id call.sipCallId :: call.farewell reason status) before
      after
  | dials {before after : UserAgent Host} {call : Call} {port : UInt16} {invite : Transaction}
      {draw : Nat} (idle : before.current = none) (opened : port ≠ 0) (dialling : call.Dialling)
      (drawn : before.draws ≤ draw ∧ draw < after.draws)
      (begun : invite.Begun (UserAgent.inviteRequest call []) (before.random.branch draw)
        (.invite (UserAgent.inviteContext call (before.random.branch draw))))
      (does : Does before after (some (call.invited (before.random.branch draw)))
        (before.transactions.put invite)
        [.openMedia port, .begin true call.id call.sipCallId, .sendSip invite.packet])
      (dials : cause = .dials call.id)
      (described : before.config.Describes none call.srtpKey call.localSdp)
      (composes : before.Composes call) :
    CallTurn cause [.openMedia port, .begin true call.id call.sipCallId, .sendSip invite.packet]
      before after
  | rings {before after : UserAgent Host} {request : Message} {id : Int32} {tag : Bytes}
      {offer : AudioDescription} {event : Event} (asks : Asks cause request "INVITE")
      (idle : before.current = none)
      (told : event.kind = .callIncoming ∧ event.callId = id)
      (does : Does before after
        (some (UserAgent.incomingCall before.config id request tag offer)) before.transactions
        [.sendSip (.response { request, status := 180, toTag := tag }),
          .begin false id (request.headerOr "call-id"), .emit event])
      (staying : before.shuttingDown = false)
      (offered : ∃ key, parseAudio request.body = some offer ∧
        before.config.acceptable offer = some key) (tagged : tag = before.nextHex 6) :
    CallTurn cause [.sendSip (.response { request, status := 180, toTag := tag }),
      .begin false id (request.headerOr "call-id"), .emit event] before after
  | reinvites {before after : UserAgent Host} {response : Response} {call : Call}
      {remote : RemoteMedia} {started : Bool} {localSdp : Bytes} {sdpVersion : UInt64}
      (asks : Asks cause response.request "INVITE")
      (same : before.sameCall response.request = some call)
      (settled : call.outgoing = true ∨ call.state = .confirmed)
      (does : Does before after (some { call with localSdp, sdpVersion }) before.transactions
        [.startMedia remote started, .sendSip (.response response)])
      (offered : ∃ offer key, parseAudio response.request.body = some offer ∧
        before.config.acceptable offer = some key ∧
          remote = before.config.remoteMediaFor call offer key ∧
            (localSdp = call.localSdp ∨
              before.config.Describes (some offer) call.srtpKey localSdp))
      (outcome : started = true ∧
          response = { request := response.request, status := 200, body := localSdp } ∨
        started = false ∧ response.status = 488 ∧ response.body = [] ∧ response.toTag = []) :
    CallTurn cause [.startMedia remote started, .sendSip (.response response)] before after
  | confirms {before after : UserAgent Host} {call : Call} {event : Event}
      (present : before.current = some call) (incoming : call.outgoing = false)
      (answering : call.state = .answering)
      (told : event.kind = .callAnswered ∧ event.callId = call.id)
      (does : Does before after (some { call with state := .confirmed }) before.transactions
        [.emit event]) (heard : ∃ request, cause = .hears request) :
    CallTurn cause [.emit event] before after
  | hearsBye {before after : UserAgent Host} {request : Message} {call : Call}
      {reason : EndReason} {status : Int} (asks : Asks cause request "BYE")
      (same : before.sameCall request = some call)
      (does : Does before after none before.transactions
        (.sendSip (.response { request, status := 200 }) :: call.farewell reason status)) :
    CallTurn cause
      (.sendSip (.response { request, status := 200 }) :: call.farewell reason status) before after
  | hearsCancel {before after : UserAgent Host} {request : Message} {call : Call}
      {reason : EndReason} {status : Int} (asks : Asks cause request "CANCEL")
      (same : before.sameCall request = some call) (incoming : call.outgoing = false)
      (ringing : call.state = .ringing)
      (does : Does before after none before.transactions
        (.sendSip (.response { request, status := 200, toTag := call.localTag }) ::
          .sendSip (.response (UserAgent.inviteResponse call 487)) ::
            call.farewell reason status)) :
    CallTurn cause
      (.sendSip (.response { request, status := 200, toTag := call.localTag }) ::
        .sendSip (.response (UserAgent.inviteResponse call 487)) :: call.farewell reason status)
      before after
  | rejects {before after : UserAgent Host} {call : Call} {code status : Int} {reason : EndReason}
      (present : before.current = some call) (ringing : call.state = .ringing)
      (refusal : 400 ≤ code ∧ code ≤ 699)
      (does : Does before after none before.transactions
        (.sendSip (.response (UserAgent.inviteResponse call code)) ::
          call.farewell reason status)) :
    CallTurn cause
      (.sendSip (.response (UserAgent.inviteResponse call code)) :: call.farewell reason status)
      before after
  | answerFails {before after : UserAgent Host} {call : Call} {port : UInt16}
      {media : List Action} {reason : EndReason} {status : Int}
      (present : before.current = some call) (incoming : call.outgoing = false)
      (ringing : call.state = .ringing)
      (refused : media = [] ∨ port ≠ 0 ∧ ∃ remote, media = [.startMedia remote false])
      (does : Does before after none before.transactions
        (.openMedia port :: media ++ .sendSip (.response (UserAgent.inviteResponse call 500)) ::
          { call with mediaOpen := decide (port ≠ 0) }.farewell reason status))
      (answers : cause = .answers call.id)
      (offered : ∀ remote started, .startMedia remote started ∈ media →
        ∃ own, remote = before.config.remoteOf call own) :
    CallTurn cause
      (.openMedia port :: media ++ .sendSip (.response (UserAgent.inviteResponse call 500)) ::
        { call with mediaOpen := decide (port ≠ 0) }.farewell reason status) before after
  | accepts {before after : UserAgent Host} {call : Call} {port : UInt16} {remote : RemoteMedia}
      {body srtpKey : Bytes} {sdpSession sdpVersion : UInt64} {now : Time}
      (present : before.current = some call) (incoming : call.outgoing = false)
      (ringing : call.state = .ringing) (opened : port ≠ 0)
      (does : Does before after (some { call with
          mediaOpen := true
          mediaPort := port
          sdpSession
          srtpKey
          sdpVersion
          localSdp := body
          lastResponse := some { UserAgent.inviteResponse call 200 with body }
          state := .answering
          resendInterval := kT1
          resendAt := now + kT1
          ackDeadline := now + kTransactionTimeout }) before.transactions
        [.openMedia port, .startMedia remote true,
          .sendSip (.response { UserAgent.inviteResponse call 200 with body })])
      (answers : cause = .answers call.id)
      (offered : remote = before.config.remoteOf call srtpKey)
      (described : before.config.Describes (some call.offer) srtpKey body)
      (keyed : call.srtpKey.length ≤ kSdesKeyLength → srtpKey.length ≤ kSdesKeyLength) :
    CallTurn cause [.openMedia port, .startMedia remote true,
      .sendSip (.response { UserAgent.inviteResponse call 200 with body })] before after
  | resends {before after : UserAgent Host} {call : Call} {now : Time} {added : List Action}
      (present : before.current = some call) (answering : call.state = .answering)
      (sent : added = [] ∨ ∃ response, call.lastResponse = some response ∧
        added = [.sendSip (.response response)])
      (does : Does before after (some { call with
          resendInterval := min (call.resendInterval * 2) kT2
          resendAt := now + min (call.resendInterval * 2) kT2 }) before.transactions added)
      (ticks : cause = .ticks now) :
    CallTurn cause added before after
  | givesUp {before after : UserAgent Host} {call : Call} (present : before.current = some call)
      (calling : call.state = .calling) (first : call.cancelRequested = false)
      (unheard : call.provisional = false)
      (does : Does before after (some { call with cancelRequested := true }) before.transactions
        []) :
    CallTurn cause [] before after
  | cancels {before after : UserAgent Host} {call : Call} {cancel : Transaction} {branch : Bytes}
      (present : before.current = some call) (calling : call.state = .calling)
      (first : call.cancelRequested = false) (rang : call.provisional = true)
      (named : call.inviteBranch ≠ [] → branch = call.inviteBranch)
      (begun : cancel.Begun (cancelRequest call) branch .ignore)
      (does : Does before after (some { call with cancelRequested := true, cancelSent := true })
        (before.transactions.put cancel) [.sendSip cancel.packet])
      (drawn : call.inviteBranch = [] → Fresh before after branch) :
    CallTurn cause [.sendSip cancel.packet] before after
  | abandons {before after : UserAgent Host} {call : Call} {reason : EndReason} {status : Int}
      (present : before.current = some call) (calling : call.state = .calling)
      (requested : call.cancelRequested = true)
      (does : Does before after none before.transactions (call.farewell reason status)) :
    CallTurn cause (call.farewell reason status) before after
  | saysBye {before after : UserAgent Host} {call : Call} {bye : Transaction} {branch : Bytes}
      {reason : EndReason} {status : Int} (present : before.current = some call)
      (settled : call.state = .answering ∨ call.state = .confirmed)
      (begun : bye.Begun (byeRequest call) branch .ignore)
      (does : Does before after none (before.transactions.put bye)
        (.sendSip bye.packet :: call.farewell reason status))
      (drawn : Fresh before after branch) (dismissed : cause.Dismisses call) :
    CallTurn cause (.sendSip bye.packet :: call.farewell reason status) before after

/-- The steps that every operation is made of. -/
inductive CallStep (cause : Cause) (added : List Action) (before after : UserAgent Host) : Prop
  | registers (side : RegisterSide before after) (log : after.log = before.log ++ added)
  | calls (turn : CallTurn cause added before after)

/-- A sequence of steps. -/
inductive CallSteps (cause : Cause) :
    List Action → UserAgent Host → UserAgent Host → Prop
  | refl (agent : UserAgent Host) : CallSteps cause [] agent agent
  | tail {before middle after : UserAgent Host} {early late : List Action}
      (steps : CallSteps cause early before middle) (step : CallStep cause late middle after) :
    CallSteps cause (early ++ late) before after

/-! ### Responses -/

omit [UserAgentHost Host] in
theorem UserAgent.Answers.heard {agent : UserAgent Host} {datagram : Bytes} {response : Message}
    {transaction : Transaction} (answers : agent.Answers datagram response transaction) :
    agent.Heard (.hears response) response transaction := by
  obtain ⟨-, isResponse, key, read, found⟩ := answers
  obtain ⟨pending, keyed⟩ := find_eq_some_iff.mp found
  exact ⟨rfl, isResponse, keyed ▸ read, pending⟩

omit [UserAgentHost Host] in
theorem UserAgent.Heard.answers {agent : UserAgent Host} {cause : Cause} {datagram : Bytes}
    {response : Message} {transaction : Transaction}
    (heard : agent.Heard cause response transaction)
    (parsed : parseMessage datagram = some response) :
    agent.Answers datagram response transaction :=
  ⟨parsed, heard.isResponse, _, heard.key, find_eq_some_iff.mpr ⟨heard.pending, rfl⟩⟩

namespace CallTurn

variable {agent : UserAgent Host} {cause : Cause}

theorem rest (agent : UserAgent Host) : CallTurn cause [] agent agent := .rests (Does.refl agent)

/-- A provisional response to an INVITE. -/
theorem onInviteProvisional {response : Message} {transaction : Transaction} {id : Int32}
    (heard : agent.Heard cause response transaction) (provisional : response.status < 200)
    (named : transaction.onProvisional = some id) (now : Time) :
    ∃ added, CallTurn cause added agent (UserAgent.onInviteProvisional id response now
        { agent with transactions := agent.transactions.put (transaction.proceed now) }) ∧
      agent.Notes id (UserAgent.onInviteProvisional id response now
        { agent with transactions := agent.transactions.put (transaction.proceed now) }) := by
  have proceeding : Does agent
      { agent with transactions := agent.transactions.put (transaction.proceed now) } agent.current
      (agent.transactions.put (transaction.proceed now)) [] :=
    { Does.refl agent with transactions := rfl }
  have ours := Transaction.not_isRegister_of_provisional named
  unfold UserAgent.onInviteProvisional
  dsimp only
  split
  next idle =>
    have gone (call : Call) (present : agent.current = some call) : False :=
      nomatch idle.symm.trans present
    exact ⟨_, .proceeds heard provisional (fun call present => (gone call present).elim) proceeding
      ours, .others (fun call present => (gone call present).elim) rfl⟩
  next call present =>
    split
    next other =>
      have apart (found : Call) (here : agent.current = some found) (own : found.id = id) :
          found.state ≠ .calling := by
        cases present.symm.trans here
        exact other.resolve_left fun apart => apart own
      refine ⟨_, .proceeds heard provisional (fun found here own => apart found here ?_) proceeding
        ours, .others apart rfl⟩
      exact (Option.some.inj (named.symm.trans own)).symm
    next same =>
      rw [not_or, not_not, not_not] at same
      have own : transaction.onProvisional = some call.id := same.1 ▸ named
      split
      next cancel =>
        rw [Bool.and_eq_true, Bool.not_eq_true'] at cancel
        obtain ⟨transaction, branch, begun, chosen, drawn, sent⟩ :=
          proceeding.sendCancel { call with provisional := true } now
        exact ⟨_, .cancelsLate heard provisional present own same.2 cancel.1 cancel.2 chosen
          begun sent drawn, .ours present same.1 same.2 sent.current same.2 rfl rfl⟩
      next settled =>
        have sent : call.cancelRequested = true → call.cancelSent = true := by
          intro requested
          simpa [requested] using settled
        split
        · exact ⟨_, .progresses heard provisional present own same.2 sent
            (Or.inr ⟨_, rfl, same.1.symm, rfl⟩) ((proceeding.setCall _).emit _),
            .ours present same.1 same.2 rfl same.2 rfl rfl⟩
        · exact ⟨_, .progresses heard provisional present own same.2 sent (Or.inl rfl)
            (proceeding.setCall _), .ours present same.1 same.2 rfl same.2 rfl rfl⟩

/-- The acceptance of an INVITE is acknowledged: its call takes it up, or this side says BYE at
once. -/
theorem onInviteAccepted {response : Message} {transaction : Transaction} {context : InviteContext}
    (heard : agent.Heard cause response transaction)
    (accepts : UserAgent.isSuccess response.status = true)
    (invites : transaction.onFinal = .invite context) (now : Time) :
    ∃ added, CallTurn cause added agent
        ((agent.without transaction).onInviteAccepted context response now) ∧
      .sendSip (.request (UserAgent.ackRequest context response) agent.freshBranch) ∈ added ∧
      agent.Replaces ((agent.without transaction).onInviteAccepted context response now)
        transaction added := by
  let ack : Ack :=
    { request := UserAgent.ackRequest context response
      branch := agent.freshBranch
      isAck := rfl
      bodyless := rfl }
  have acknowledged := (Does.without agent transaction).drawn.sendRaw ack.packet
  unfold UserAgent.onInviteAccepted
  dsimp only
  split
  next gone =>
    obtain ⟨bye, branch, begun, drawn, -, sent⟩ :=
      acknowledged.sendRequest (lateByeRequest context response) now [] fun _ _ =>
        ⟨Or.inl rfl, rfl, rfl⟩
    exact ⟨_, .parts heard accepts invites gone rfl begun sent (drawn rfl) rfl, mem_cons_self,
      Or.inr ⟨bye, sent.transactions, by simp, Or.inl begun.onFinal⟩⟩
  next call own =>
    split
    next unwanted =>
      obtain ⟨bye, branch, begun, drawn, sent⟩ := acknowledged.sendBye (call.confirm ack) now
      exact ⟨_, .drops heard accepts invites own rfl (Or.inl rfl) begun (sent.endCall _ _)
        (drawn.endCall _ _) nofun rfl, mem_cons_self,
        Or.inr ⟨bye, (sent.endCall _ _).transactions, by simp, Or.inl begun.onFinal⟩⟩
    next wanted =>
      rcases acknowledged.followAnswer (call.confirm ack) response now with
        ⟨answer, key, usable, event, answered, named, does⟩ |
        ⟨media, bye, branch, reason, status, refused, begun, drawn, does⟩
      · exact ⟨_, .connects heard accepts invites own (Bool.eq_false_iff.mpr wanted) rfl
          ⟨answered, named⟩ does ⟨answer, key, usable, rfl⟩ rfl, mem_cons_self,
          Or.inl does.transactions⟩
      · rw [List.append_assoc] at does
        refine ⟨_, .drops heard accepts invites own rfl ?_ begun does drawn ?_ rfl, mem_cons_self,
          Or.inr ⟨bye, does.transactions, by simp, Or.inl begun.onFinal⟩⟩
        · exact refused.imp_right fun ⟨_, _, _, equal⟩ => ⟨_, equal⟩
        · rcases refused with rfl | ⟨answer, key, usable, rfl⟩
          · exact nofun
          · intro remote started member
            cases mem_singleton.mp member
            exact ⟨answer, key, usable, rfl⟩

/-- The refusal of an INVITE. -/
theorem onInviteRefused {response : Message} {transaction : Transaction} {context : InviteContext}
    (heard : agent.Heard cause response transaction)
    (invites : transaction.onFinal = .invite context) (now : Time) :
    ∃ added, CallTurn cause added agent (((agent.without transaction).sendRaw
        (.ackForFailure context (response.headerOr "to"))).onInviteRefused context response now) ∧
      agent.Replaces (((agent.without transaction).sendRaw
        (.ackForFailure context (response.headerOr "to"))).onInviteRefused context response now)
          transaction added := by
  have pending := heard.pending
  have acknowledged := (Does.without agent transaction).sendRaw
    (.ackForFailure context (response.headerOr "to"))
  have names : cause.Names context
      [.sendSip (.ackForFailure context (response.headerOr "to"))] := by
    intro recipient member
    cases mem_singleton.mp member
    exact ⟨response, heard.message, rfl⟩
  unfold UserAgent.onInviteRefused
  split
  next gone =>
    exact ⟨_, .forgets pending invites gone (Or.inr ⟨_, rfl⟩) acknowledged names,
      Or.inl acknowledged.transactions⟩
  next call own =>
    have present : agent.current = some call := (callOf_eq_some own).1
    rw [present] at acknowledged
    by_cases challenge : (response.status = 401 ∨ response.status = 407) ∧
        !call.authenticated ∧ !call.cancelRequested
    · have challenged := acknowledged.authorizationFor response (ascii "INVITE") call.inviteUri
      rw [if_pos challenge]
      rw [Bool.not_eq_true', Bool.not_eq_true'] at challenge
      dsimp only
      split
      next line answered =>
        obtain ⟨invite, begun, drawn, sent⟩ :=
          challenged.sendInvite { call with authenticated := true } line now
        rw [challenged.random] at begun sent
        exact ⟨_, .retries pending invites own challenge.2.1 challenge.2.2
          ⟨challenged.draws, drawn⟩ begun sent ⟨response, heard.message, rfl⟩
          (Or.inr ⟨_, response, acknowledged.config, acknowledged.random, heard.message, answered⟩),
          Or.inr ⟨invite, sent.transactions, by simp,
            Or.inr ⟨_, _, begun.onFinal, rfl, challenged.draws, drawn⟩⟩⟩
      · exact ⟨_, .fails pending invites own (Or.inr ⟨_, rfl⟩) (challenged.endCall _ _) names,
          Or.inl (challenged.endCall _ _).transactions⟩
    · rw [if_neg challenge]
      exact ⟨_, .fails pending invites own (Or.inr ⟨_, rfl⟩) (acknowledged.endCall _ _) names,
        Or.inl (acknowledged.endCall _ _).transactions⟩

theorem onInviteFinal {response : Message} {transaction : Transaction} {context : InviteContext}
    (heard : agent.Heard cause response transaction) (final : 200 ≤ response.status)
    (invites : transaction.onFinal = .invite context) (now : Time) :
    ∃ added, CallTurn cause added agent
        ((agent.without transaction).onInviteFinal context (some response) now) ∧
      agent.Replaces ((agent.without transaction).onInviteFinal context (some response) now)
        transaction added := by
  unfold UserAgent.onInviteFinal
  dsimp only
  split
  next accepted =>
    obtain ⟨added, step, -, replaces⟩ := onInviteAccepted heard
      (by simp [UserAgent.isSuccess, final, accepted]) invites now
    exact ⟨added, step, replaces⟩
  next => exact onInviteRefused heard invites now

/-! ### Requests -/

theorem onAck {request : Message} (heard : cause = .hears request) :
    ∃ added, CallTurn cause added agent (agent.onAck request) := by
  unfold UserAgent.onAck
  split
  · exact ⟨_, rest agent⟩
  next call same =>
    have present := (sameCall_eq_some same).1
    split
    next waiting =>
      rw [Bool.and_eq_true, Bool.not_eq_true', decide_eq_true_iff] at waiting
      exact ⟨_, .confirms present waiting.1 waiting.2 ⟨rfl, rfl⟩
        (((Does.refl agent).setCall _).emit _) ⟨request, heard⟩⟩
    · exact ⟨_, rest agent⟩

theorem onBye {request : Message} (asks : Asks cause request "BYE") :
    ∃ added, CallTurn cause added agent (agent.onBye request) := by
  unfold UserAgent.onBye
  split
  · have other : request.method ≠ ascii "INVITE" := by
      rw [asks.method]
      decide
    exact ⟨_, .replies (.other asks.message (Or.inl other) rfl (fun accepts => other accepts.2)
      (Or.inl rfl) (by simp)) ((Does.refl agent).respond _)⟩
  next call same =>
    have replied := (Does.refl agent).respond { request, status := 200 }
    rw [(sameCall_eq_some same).1] at replied
    exact ⟨_, .hearsBye asks same (replied.endCall _ _)⟩

theorem onCancel {request : Message} (asks : Asks cause request "CANCEL") :
    ∃ added, CallTurn cause added agent (agent.onCancel request) := by
  have other : request.method ≠ ascii "INVITE" := by
    rw [asks.method]
    decide
  have reply {toTag : Bytes} {status : Int} (tagged : agent.Tags toTag)
      (known : 100 ≤ status ∧ status ≤ 699) :
      ∃ added, CallTurn cause added agent (agent.respond { request, status, toTag }) :=
    ⟨_, .replies (.other asks.message (Or.inl other) rfl (fun accepts => other accepts.2) tagged
      known) ((Does.refl agent).respond _)⟩
  unfold UserAgent.onCancel
  split
  · exact reply (Or.inl rfl) (by decide)
  next call same =>
    split
    · exact reply (Or.inl rfl) (by decide)
    next incoming =>
      dsimp only
      split
      next ringing =>
        have replied := ((Does.refl agent).respond
          { request, status := 200, toTag := call.localTag }).respond
            (UserAgent.inviteResponse call 487)
        rw [(sameCall_eq_some same).1] at replied
        exact ⟨_, .hearsCancel asks same (Bool.eq_false_iff.mpr incoming) ringing
          (replied.endCall _ _)⟩
      · exact reply (Or.inr (Or.inr ⟨call, (sameCall_eq_some same).1, rfl⟩)) (by decide)

theorem followReinvite {request : Message} {call : Call} (asks : Asks cause request "INVITE")
    (same : agent.sameCall request = some call)
    (settled : call.outgoing = true ∨ call.state = .confirmed) :
    ∃ added, CallTurn cause added agent (agent.followReinvite call request) := by
  have declined : ∃ added, CallTurn cause added agent
      (agent.respond { request, status := 488 }) :=
    ⟨_, .replies (.declines asks same settled rfl rfl (Or.inl rfl)) ((Does.refl agent).respond _)⟩
  unfold UserAgent.followReinvite
  dsimp only
  split
  · exact declined
  next offer parsed =>
    split
    · exact declined
    next key usable =>
      have parsed := (Option.ite_none_left_eq_some.mp parsed).2
      have described : agent.config.Describes (some offer) call.srtpKey
          (agent.config.localSdpFor call (some offer)).1 := ⟨call, rfl, rfl⟩
      split
      · have moved := ((Does.refl agent).setCall
          (agent.config.localSdpFor call (some offer)).2).startMedia
            (agent.config.remoteMediaFor (agent.config.localSdpFor call (some offer)).2 offer key)
        split
        next started =>
          rw [started] at moved
          exact ⟨_, .reinvites asks same settled ((moved.setCall _).respond _)
            ⟨offer, key, parsed, usable, rfl, Or.inr described⟩ (Or.inl ⟨rfl, rfl⟩)⟩
        next refused =>
          rw [Bool.eq_false_iff.mpr refused] at moved
          exact ⟨_, .reinvites asks same settled (moved.respond _)
            ⟨offer, key, parsed, usable, rfl, Or.inl rfl⟩ (Or.inr ⟨rfl, rfl, rfl, rfl⟩)⟩
      · have moved := ((Does.refl agent).setCall call).startMedia
          (agent.config.remoteMediaFor call offer key)
        split
        next started =>
          rw [started] at moved
          exact ⟨_, .reinvites asks same settled ((moved.setCall _).respond _)
            ⟨offer, key, parsed, usable, rfl, Or.inl rfl⟩ (Or.inl ⟨rfl, rfl⟩)⟩
        next refused =>
          rw [Bool.eq_false_iff.mpr refused] at moved
          exact ⟨_, .reinvites asks same settled (moved.respond _)
            ⟨offer, key, parsed, usable, rfl, Or.inl rfl⟩ (Or.inr ⟨rfl, rfl, rfl, rfl⟩)⟩

theorem onInviteRequest {request : Message} (asks : Asks cause request "INVITE") :
    ∃ added, CallTurn cause added agent (agent.onInviteRequest request) := by
  unfold UserAgent.onInviteRequest
  split
  next call same =>
    have present := (sameCall_eq_some same).1
    split
    next early =>
      rw [Bool.and_eq_true, Bool.not_eq_true', decide_eq_true_iff] at early
      split
      next response kept =>
        exact ⟨_, .replies (.again present early.1 early.2 kept ⟨request, asks, same⟩)
          ((Does.refl agent).respond _)⟩
      · exact ⟨_, rest agent⟩
    next inDialog =>
      refine followReinvite asks same ?_
      simpa [Classical.or_iff_not_imp_left] using inDialog
  next stranger =>
    have refused (status : Int) (known : status = 486 ∨ status = 488) :
        ∃ added, CallTurn cause added agent
          (agent.drawn.respond { request, status, toTag := agent.nextHex 6 }) :=
      ⟨_, .replies (.refuses asks stranger known rfl (Or.inr (Or.inl rfl)))
        ((Does.refl agent).drawn.respond _)⟩
    dsimp only
    split
    · exact refused _ (Or.inl rfl)
    next free =>
      simp only [Bool.or_eq_true, not_or, Bool.not_eq_true, Option.isSome_eq_false_iff,
        Option.isNone_iff_eq_none] at free
      split
      · exact refused _ (Or.inr rfl)
      next offer parsed =>
        split
        · exact refused _ (Or.inr rfl)
        next key usable =>
          obtain ⟨id, event, incoming, named, rung⟩ :=
            (Does.refl agent).drawn.ring request (agent.nextHex 6) offer
          exact ⟨_, .rings asks free.1 ⟨incoming, named⟩ rung free.2 ⟨key, parsed, usable⟩
            rfl⟩

theorem onRequest {request : Message} (heard : cause = .hears request)
    (isRequest : request.isResponse = false) :
    ∃ added, CallTurn cause added agent (agent.onRequest request) := by
  have other (apart : request.method ≠ ascii "INVITE" ∨ UserAgent.wellAddressed request = false)
      {after : UserAgent Host} {status : Int} {toTag : Bytes}
      (does : Does agent after agent.current agent.transactions
        [.sendSip (.response { request, status, toTag })])
      (denies : status = 200 → request.method ≠ ascii "INVITE") (tagged : agent.Tags toTag)
      (known : 100 ≤ status ∧ status ≤ 699) :
      ∃ added, CallTurn cause added agent after :=
    ⟨_, .replies (.other heard apart rfl (fun accepts => denies accepts.1 accepts.2) tagged known)
      does⟩
  unfold UserAgent.onRequest
  split
  · exact onAck heard
  · split
    next unaddressed =>
      exact other (Or.inr ((Bool.not_eq_true' _).mp unaddressed)) ((Does.refl agent).respond _)
        (fun wrong => absurd wrong (by decide)) (Or.inl rfl) (by decide)
    next addressed =>
      rw [Bool.not_eq_true', Bool.not_eq_false] at addressed
      split
      next invite => exact onInviteRequest ⟨heard, isRequest, invite, addressed⟩
      next notInvite =>
        split
        · exact other (Or.inl notInvite) ((Does.refl agent).drawn.respond _) (fun _ => notInvite)
            (Or.inr (Or.inl rfl)) (by decide)
        · split
          next bye => exact onBye ⟨heard, isRequest, bye, addressed⟩
          · split
            next cancel => exact onCancel ⟨heard, isRequest, cancel, addressed⟩
            · exact other (Or.inl notInvite) ((Does.refl agent).respond _) (fun _ => notInvite)
                (Or.inl rfl) (by decide)

theorem onRinging {datagram : Bytes} {response : Message} {transaction : Transaction}
    {context : InviteContext} (answers : agent.Answers datagram response transaction)
    (provisional : response.status < 200) (invites : transaction.onFinal = .invite context)
    (now : Time) :
    ∃ added, CallTurn (.hears response) added agent (agent.onMessage datagram now) ∧
      agent.Notes context.callId (agent.onMessage datagram now) := by
  have named : transaction.onProvisional = some context.callId := by
    have fits := transaction.fits
    rw [invites] at fits
    exact fits.2.2.2.2.2.2.1
  rw [agent.onMessage_provisional answers provisional now, named]
  exact onInviteProvisional answers.heard provisional named now

theorem onConclusion {datagram : Bytes} {response : Message} {transaction : Transaction}
    {context : InviteContext} (answers : agent.Answers datagram response transaction)
    (final : 200 ≤ response.status) (invites : transaction.onFinal = .invite context) (now : Time) :
    ∃ added, CallTurn (.hears response) added agent (agent.onMessage datagram now) ∧
      agent.Replaces (agent.onMessage datagram now) transaction added := by
  rw [agent.onMessage_final answers final now, invites]
  exact onInviteFinal answers.heard final invites now

/-- A message that answers no REGISTER is one turn. -/
theorem onMessage (agent : UserAgent Host) {datagram : Bytes} {heard : Message}
    (parsed : parseMessage datagram = some heard)
    (calls : ∀ transaction, agent.Answers datagram heard transaction →
      transaction.onFinal.isRegister = false) (now : Time) :
    ∃ added, CallTurn (.hears heard) added agent (agent.onMessage datagram now) := by
  by_cases answered : ∃ transaction, agent.Answers datagram heard transaction
  · obtain ⟨transaction, answers⟩ := answered
    have hears := answers.heard
    have ours := calls transaction answers
    by_cases provisional : heard.status < 200
    · rw [agent.onMessage_provisional answers provisional now]
      split
      next id named =>
        obtain ⟨added, turn, -⟩ := onInviteProvisional hears provisional named now
        exact ⟨added, turn⟩
      next unnamed =>
        refine ⟨_, .proceeds hears provisional (fun call _ own => ?_)
          { Does.refl agent with transactions := rfl } ours⟩
        exact nomatch unnamed.symm.trans own
    · have final := Int.not_lt.mp provisional
      rw [agent.onMessage_final answers final now]
      match handler : transaction.onFinal with
      | .register _ _ =>
        rw [handler] at ours
        cases ours
      | .invite context =>
        obtain ⟨added, turn, -⟩ := onInviteFinal hears final handler now
        exact ⟨added, turn⟩
      | .ignore => exact ⟨_, .concludes hears.pending handler (Does.without agent transaction)⟩
  · rw [agent.onMessage_unanswered parsed (not_exists.mp answered) now]
    split
    · split
      · exact ⟨_, rest agent⟩
      · split
        next ack stored =>
          obtain ⟨call, same, kept⟩ := Option.bind_eq_some_iff.mp stored
          refine ⟨_, .acknowledges (sameCall_eq_some same).1 kept
            ((Does.refl agent).sendRaw _) ⟨heard, rfl, same, fun transaction hears => ?_⟩⟩
          exact answered ⟨transaction, hears.answers parsed⟩
        · exact ⟨_, rest agent⟩
    next isRequest => exact onRequest rfl (Bool.eq_false_iff.mpr isRequest)

/-! ### Commands -/

theorem dialled {ready : UserAgent Host} {first call : Call} {port : UInt16}
    (idle : agent.current = none) (opened : port ≠ 0)
    (begun : Does agent ready (some first) agent.transactions
      [.openMedia port, .begin first.outgoing first.id first.sipCallId])
    (outgoing : first.outgoing = true) (id : call.id = first.id)
    (sipCallId : call.sipCallId = first.sipCallId) (dialling : call.Dialling)
    (described : agent.config.Describes none call.srtpKey call.localSdp)
    (composes : agent.Composes call) (now : Time) :
    ∃ added, CallTurn (.dials first.id) added agent (ready.sendInvite call [] now) := by
  rw [outgoing, ← id, ← sipCallId] at begun
  obtain ⟨invite, fresh, drawn, sent⟩ := begun.sendInvite call [] now
  rw [begun.random] at fresh sent
  exact ⟨_, .dials idle opened dialling ⟨begun.draws, drawn⟩ fresh sent (id ▸ rfl) described
    composes⟩

theorem call (agent : UserAgent Host) (id : Int32) (target : Bytes) (now : Time) :
    ∃ added, CallTurn (.dials id) added agent (agent.call id target now).2 := by
  unfold UserAgent.call
  split
  · exact ⟨_, rest agent⟩
  next valid =>
    rw [Bool.not_eq_true', Bool.not_eq_false] at valid
    split
    · exact ⟨_, rest agent⟩
    next free =>
      have idle : agent.current = none := by
        simp only [Bool.or_eq_true, not_or, Bool.not_eq_true, Option.isSome_eq_false_iff,
          Option.isNone_iff_eq_none] at free
        exact free.1
      let first := agent.openMedia.2.outgoingCall id target agent.openMedia.1
      have begun := (Does.refl agent).openMedia.drawn.drawn.drawn.beginCall first
      dsimp only
      split
      next unopened => exact ⟨_, .dialFails idle rfl rfl (begun.endCall _ _) rfl⟩
      next opened =>
        have keying := begun.newSrtpKey first
        obtain ⟨srtpKey, keyed, short⟩ := newSrtpKey_call
          (agent.openMedia.2.drawn.drawn.drawn.beginCall first) first
        rw [keyed]
        split
        · exact ⟨_, .dialFails idle rfl rfl
            ((keying.setCall { first with srtpKey }).endCall _ _) rfl⟩
        · refine dialled idle opened keying rfl ?_ ?_ ?_ ?_ ?_ now
          · rfl
          · rfl
          · exact ⟨rfl, rfl, rfl, decide_eq_true opened, rfl, rfl, rfl, rfl, rfl, rfl⟩
          · exact ⟨{ first with srtpKey }, rfl, rfl⟩
          · exact ⟨agent.openMedia.2, target, srtpKey, _, agent.openMedia.1, _,
              (Does.refl agent).openMedia.config, (Does.refl agent).openMedia.random, valid,
              short (Nat.zero_le _), rfl⟩

/-- A ringing call whose media could not be set up. -/
theorem failAnswer {ready : UserAgent Host} {current : Option Call} {call next : Call}
    {port : UInt16} {media : List Action} (present : agent.current = some call)
    (incoming : call.outgoing = false) (ringing : call.state = .ringing)
    (does : Does agent ready current agent.transactions (.openMedia port :: media))
    (refused : media = [] ∨ port ≠ 0 ∧ ∃ remote, media = [.startMedia remote false])
    (responds : inviteResponse next 500 = inviteResponse call 500)
    (ends : next.farewell .mediaFailed 500 =
      { call with mediaOpen := decide (port ≠ 0) }.farewell .mediaFailed 500)
    (offered : ∀ remote started, .startMedia remote started ∈ media →
      ∃ own, remote = agent.config.remoteOf call own) :
    ∃ added, CallTurn (.answers call.id) added agent (ready.failAnswer next) := by
  have failed : Does agent (ready.failAnswer next) none agent.transactions
      (.openMedia port :: media ++ [.sendSip (.response (inviteResponse next 500))] ++
        next.farewell .mediaFailed 500) :=
    ((does.setCall next).respond _).endCall _ _
  rw [responds, ends, append_assoc] at failed
  exact ⟨_, .answerFails present incoming ringing refused failed rfl offered⟩

theorem acceptRinging {ready : UserAgent Host} {current : Option Call} {call : Call}
    {port : UInt16} {sdpSession : UInt64} {srtpKey : Bytes} (present : agent.current = some call)
    (incoming : call.outgoing = false) (ringing : call.state = .ringing) (opened : port ≠ 0)
    (keyed : call.srtpKey.length ≤ kSdesKeyLength → srtpKey.length ≤ kSdesKeyLength)
    (does : Does agent ready current agent.transactions [.openMedia port]) (now : Time) :
    ∃ added, CallTurn (.answers call.id) added agent (UserAgent.acceptRinging
      { call with mediaOpen := true, mediaPort := port, sdpSession, srtpKey } now ready) := by
  let next : Call := { call with mediaOpen := true, mediaPort := port, sdpSession, srtpKey }
  have begun := (does.setCall next).startMedia (ready.config.remoteMediaFor next next.offer
    (ready.config.acceptable next.offer).join)
  unfold UserAgent.acceptRinging
  dsimp only
  rw [does.config] at begun ⊢
  split
  next refused =>
    rw [(Bool.not_eq_true' _).mp refused] at begun
    refine failAnswer present incoming ringing begun (Or.inr ⟨opened, _, rfl⟩) rfl ?_ ?_
    · rw [decide_eq_true opened]
      rfl
    · intro remote started member
      cases mem_singleton.mp member
      exact ⟨srtpKey, rfl⟩
  next started =>
    rw [Bool.not_eq_true', Bool.not_eq_false] at started
    rw [started] at begun
    have accepted (body : Bytes) := (begun.setCall { next with
      sdpVersion := next.sdpVersion + 1
      localSdp := body
      lastResponse := some { UserAgent.inviteResponse call 200 with body }
      state := .answering
      resendInterval := kT1
      resendAt := now + kT1
      ackDeadline := now + kTransactionTimeout }).respond
        { UserAgent.inviteResponse call 200 with body }
    exact ⟨_, .accepts present incoming ringing opened
      (accepted (agent.config.localSdpFor next (some next.offer)).1) rfl rfl ⟨next, rfl, rfl⟩ keyed⟩

theorem answer (agent : UserAgent Host) (id : Int32) (now : Time) :
    ∃ added, CallTurn (.answers id) added agent (agent.answer id now).2 := by
  unfold UserAgent.answer
  split
  · exact ⟨_, rest agent⟩
  next call found =>
    obtain ⟨present, named⟩ := Option.filter_eq_some_iff.mp found
    cases of_decide_eq_true named
    split
    · exact ⟨_, rest agent⟩
    next free =>
      obtain ⟨incoming, ringing⟩ : call.outgoing = false ∧ call.state = .ringing := by
        simpa using free
      let session := agent.openMedia.2.random.u32 agent.openMedia.2.draws
      let opening := call.withMedia agent.openMedia.1 session
      have ready := (Does.refl agent).openMedia.drawn.setCall opening
      unfold answerRinging
      dsimp only
      split
      · exact failAnswer present incoming ringing ready (Or.inl rfl) rfl rfl nofun
      next opened =>
        have keying := ready.newSrtpKey opening
        obtain ⟨srtpKey, keyed, short⟩ := newSrtpKey_call
          (agent.openMedia.2.drawn.setCall opening) opening
        rw [keyed]
        split
        · exact failAnswer present incoming ringing keying (Or.inl rfl) rfl rfl nofun
        · have mediaOpen : opening.mediaOpen = true := decide_eq_true opened
          rw [mediaOpen]
          exact acceptRinging present incoming ringing opened short keying now

theorem reject (agent : UserAgent Host) (id : Int32) (status : Int) :
    ∃ added, CallTurn cause added agent (agent.reject id status).2 := by
  unfold UserAgent.reject
  split
  · exact ⟨_, rest agent⟩
  next refusal =>
    split
    · exact ⟨_, rest agent⟩
    next call found =>
      have present := (Option.filter_eq_some_iff.mp found).1
      split
      · exact ⟨_, rest agent⟩
      next free =>
        have ringing : call.state = .ringing := by
          simpa using (by simpa using free : call.outgoing = false ∧ call.state = .ringing).2
        have replied := (Does.refl agent).respond (inviteResponse call status)
        rw [present] at replied
        exact ⟨_, .rejects present ringing (by omega) (replied.endCall _ _)⟩

theorem giveUp {call : Call} (present : agent.current = some call) (calling : call.state = .calling)
    (now : Time) :
    ∃ added next, CallTurn cause added agent (agent.giveUp call now) ∧
      (agent.giveUp call now).current = some next ∧ next.state = .calling ∧
        next.cancelRequested = true ∧ next.inviteBranch = call.inviteBranch := by
  unfold UserAgent.giveUp
  split
  next requested => exact ⟨_, call, rest agent, present, calling, requested, rfl⟩
  next first =>
    rw [Bool.not_eq_true] at first
    dsimp only
    split
    next rang =>
      obtain ⟨cancel, branch, begun, named, drawn, sent⟩ :=
        (Does.refl agent).sendCancel { call with cancelRequested := true } now
      exact ⟨_, _, .cancels present calling first rang named begun sent drawn, sent.current,
        calling, rfl, rfl⟩
    next unheard =>
      have given := (Does.refl agent).setCall { call with cancelRequested := true }
      exact ⟨_, _, .givesUp present calling first (Bool.eq_false_iff.mpr unheard) given,
        given.current, calling, rfl, rfl⟩

/-- A hangup is two turns if the agent is shutting down and the call was not answered. -/
theorem hangup (agent : UserAgent Host) (id : Int32) (now : Time)
    (dismisses : ∀ call, agent.current = some call → call.id = id →
      call.state = .answering ∨ call.state = .confirmed → cause.Dismisses call) :
    ∃ middle early late, CallTurn cause early agent middle ∧
      CallTurn cause late middle (agent.hangup id now).2 := by
  have one {after : UserAgent Host} {added : List Action}
      (turn : CallTurn cause added agent after) :
      ∃ middle early late, CallTurn cause early agent middle ∧ CallTurn cause late middle after :=
    ⟨after, _, _, turn, rest after⟩
  unfold UserAgent.hangup
  split
  · exact one (rest agent)
  next call found =>
    obtain ⟨present, named⟩ := Option.filter_eq_some_iff.mp found
    have settled := dismisses call present (of_decide_eq_true named)
    dsimp only
    split
    next calling =>
      obtain ⟨more, next, given, current, stillCalling, requested, -⟩ :
          ∃ added next, CallTurn cause added agent (agent.giveUp call now) ∧
            (agent.giveUp call now).current = some next ∧ next.state = .calling ∧
              next.cancelRequested = true ∧ next.inviteBranch = call.inviteBranch :=
        giveUp present calling now
      split
      · have ended := Does.refl (agent.giveUp call now)
        rw [current] at ended
        exact ⟨_, _, _, given, .abandons current stillCalling requested (ended.endCall _ _)⟩
      · exact one given
    next ringing =>
      have replied := (Does.refl agent).respond (inviteResponse call 603)
      rw [present] at replied
      exact one (.rejects present ringing (by decide) (replied.endCall _ _))
    next answering =>
      obtain ⟨bye, branch, begun, drawn, sent⟩ := (Does.refl agent).sendBye call now
      exact one (.saysBye present (Or.inl answering) begun (sent.endCall _ _) (drawn.endCall _ _)
        (settled (Or.inl answering)))
    next confirmed =>
      obtain ⟨bye, branch, begun, drawn, sent⟩ := (Does.refl agent).sendBye call now
      exact one (.saysBye present (Or.inr confirmed) begun (sent.endCall _ _) (drawn.endCall _ _)
        (settled (Or.inr confirmed)))

theorem awaitAck (agent : UserAgent Host) (now : Time) :
    ∃ added, CallTurn (.ticks now) added agent (agent.awaitAck now) := by
  unfold UserAgent.awaitAck
  split
  · exact ⟨_, rest agent⟩
  next call present =>
    split
    · exact ⟨_, rest agent⟩
    next answering =>
      rw [not_not] at answering
      split
      next late =>
        obtain ⟨bye, branch, begun, drawn, sent⟩ := (Does.refl agent).sendBye call now
        exact ⟨_, .saysBye present (Or.inl answering) begun (sent.endCall _ _)
          (drawn.endCall _ _) ⟨answering, late⟩⟩
      · split
        · dsimp only
          split
          next response kept =>
            exact ⟨_, .resends present answering (Or.inr ⟨response, kept, rfl⟩)
              (((Does.refl agent).respond response).setCall _) rfl⟩
          · exact ⟨_, .resends present answering (Or.inl rfl) ((Does.refl agent).setCall _) rfl⟩
        · exact ⟨_, rest agent⟩

end CallTurn

/-! ### Transactions and messages -/

namespace CallStep

variable {agent : UserAgent Host} {cause : Cause}

/-- A transaction that is over without a response. -/
theorem expire (agent : UserAgent Host) (now : Time) (key : Bytes) :
    ∃ added, CallStep cause added agent (agent.expire now key) := by
  unfold UserAgent.expire
  split
  · exact ⟨_, .calls (.rest agent)⟩
  next transaction found =>
    obtain ⟨pending, rfl⟩ := find_eq_some_iff.mp found
    have erased := Does.without agent transaction
    match handler : transaction.onFinal with
    | .register expires authenticated =>
      have side := (RegisterSide.erase (RegisterSide.refl agent) found
        (by rw [handler]; rfl)).onRegisterFinal none nofun expires authenticated now
      obtain ⟨added, log, -⟩ := side.frame.log
      exact ⟨added, .registers side log⟩
    | .invite context =>
      show ∃ added, CallStep cause added agent
        (if ((agent.without transaction).callOf context).isSome then
          (agent.without transaction).endCall .timeout 408 else agent.without transaction)
      split
      next owned =>
        obtain ⟨call, own⟩ := Option.isSome_iff_exists.mp owned
        have present : agent.current = some call := (callOf_eq_some own).1
        rw [present] at erased
        exact ⟨_, .calls (.fails pending handler own (Or.inl rfl) (erased.endCall _ _) nofun)⟩
      next gone =>
        rw [Option.not_isSome_iff_eq_none] at gone
        exact ⟨_, .calls (.forgets pending handler gone (Or.inl rfl) erased nofun)⟩
    | .ignore => exact ⟨_, .calls (.concludes pending handler erased)⟩

/-- A message is one step. -/
theorem onMessage (agent : UserAgent Host) {datagram : Bytes} {heard : Message}
    (parsed : parseMessage datagram = some heard) (now : Time) :
    ∃ added, CallStep (.hears heard) added agent (agent.onMessage datagram now) := by
  by_cases registered : ∃ transaction, agent.Answers datagram heard transaction ∧
      transaction.onFinal.isRegister = true
  · obtain ⟨transaction, answers, register⟩ := registered
    obtain ⟨expires, authenticated, handler⟩ := Transaction.exists_register_of_isRegister register
    have found : agent.transactions.find transaction.key = some transaction :=
      find_eq_some_iff.mpr ⟨answers.pending, rfl⟩
    rw [agent.onMessage_register answers handler now]
    split
    · exact ⟨_, .registers ((RegisterSide.refl agent).proceed answers.pending register now)
        (append_nil _).symm⟩
    · have side := (RegisterSide.erase (RegisterSide.refl agent) found register).onRegisterFinal
        (some heard) (fun _ equal => Option.some.inj equal ▸ ⟨datagram, parsed⟩) expires
        authenticated now
      obtain ⟨added, log, -⟩ := side.frame.log
      exact ⟨added, .registers side log⟩
  · obtain ⟨added, turn⟩ := CallTurn.onMessage agent parsed (fun transaction answers => by
      rw [← Bool.not_eq_true]
      exact fun register => registered ⟨transaction, answers, register⟩) now
    exact ⟨added, .calls turn⟩

end CallStep

/-! ### Operations -/

namespace CallSteps

variable {cause : Cause} {before after : UserAgent Host} {added : List Action}

theorem single (step : CallStep cause added before after) :
    CallSteps cause added before after :=
  .tail (.refl before) step

theorem trans {later : UserAgent Host} {more : List Action}
    (first : CallSteps cause added before after) (second : CallSteps cause more after later) :
    CallSteps cause (added ++ more) before later := by
  induction second with
  | refl => exact (append_nil added).symm ▸ first
  | tail _ step hypothesis =>
    exact append_assoc added _ _ ▸ (hypothesis first).tail step

theorem registers (steps : ∃ added, CallSteps cause added before after) {later : UserAgent Host}
    (side : RegisterSide after later) : ∃ added, CallSteps cause added before later := by
  obtain ⟨added, steps⟩ := steps
  obtain ⟨more, log, -⟩ := side.frame.log
  exact ⟨_, steps.tail (.registers side log)⟩

theorem turns (steps : CallSteps cause added before after) {later : UserAgent Host}
    {more : List Action} (turn : CallTurn cause more after later) :
    CallSteps cause (added ++ more) before later :=
  steps.tail (.calls turn)

theorem hangup (steps : ∃ added, CallSteps cause added before after) (id : Int32) (now : Time)
    (dismisses : ∀ call, after.current = some call → call.id = id →
      call.state = .answering ∨ call.state = .confirmed → cause.Dismisses call) :
    ∃ added, CallSteps cause added before (after.hangup id now).2 := by
  obtain ⟨added, steps⟩ := steps
  obtain ⟨middle, early, late, first, second⟩ : ∃ middle early late,
      CallTurn cause early after middle ∧ CallTurn cause late middle (after.hangup id now).2 :=
    CallTurn.hangup after id now dismisses
  exact ⟨_, (steps.turns first).turns second⟩

theorem foldl_expire (steps : ∃ added, CallSteps cause added before after) (now : Time)
    (keys : List Bytes) :
    ∃ added, CallSteps cause added before (keys.foldl (UserAgent.expire now) after) := by
  refine loop_keeps (fun current => ∃ added, CallSteps cause added before current) keys
    (fun current key _ steps => ?_) steps
  obtain ⟨added, steps⟩ := steps
  obtain ⟨more, step⟩ : ∃ added, CallStep cause added current (current.expire now key) :=
    CallStep.expire current now key
  exact ⟨_, steps.tail step⟩

variable (agent : UserAgent Host) (now : Time)

theorem shutdown : ∃ added, CallSteps .closes added agent (agent.shutdown now) := by
  have closing : ∃ added, CallSteps .closes added agent { agent with shuttingDown := true } :=
    registers ⟨_, .refl agent⟩ (RegisterSide.refl agent).close
  unfold UserAgent.shutdown
  dsimp only
  split
  · exact registers closing ((RegisterSide.refl _).stopRegistration now)
  · exact registers (hangup closing _ now fun _ _ _ settled => settled)
      ((RegisterSide.refl _).stopRegistration now)

theorem onTransportDown : ∃ added, CallSteps cause added agent (agent.onTransportDown now) := by
  have start : ∃ added, CallSteps cause added agent agent := ⟨_, .refl agent⟩
  have failed := foldl_expire start now (agent.transactions.values.map Transaction.key)
  unfold UserAgent.onTransportDown
  rw [UserAgent.foldl_runFinal_none_all]
  dsimp only
  split
  · exact registers failed (((RegisterSide.refl _).setRegistration _ (by rfl) (by rfl)).report _)
  · exact failed

theorem onTimer :
    ∃ added, CallSteps (.ticks now) added (agent.retransmit now) (agent.onTimer now) := by
  have start : ∃ added, CallSteps (.ticks now) added (agent.retransmit now)
      (agent.retransmit now) := ⟨_, .refl _⟩
  obtain ⟨added, expired⟩ := foldl_expire start now (agent.expiredKeys now)
  obtain ⟨more, waited⟩ := CallTurn.awaitAck (agent.expired now) now
  rw [onTimer_eq]
  exact registers ⟨_, expired.turns waited⟩ ((RegisterSide.refl _).refresh now)

/-- Every operation is one step that a message brings about, or a sequence of steps. -/
theorem step (op : Op) :
    (∃ datagram now heard added, op = .message datagram now ∧ parseMessage datagram = some heard ∧
      CallStep (.hears heard) added agent (agent.step op)) ∨
    (∀ heard, op.cause ≠ .hears heard) ∧
      ∃ added, CallSteps op.cause added (agent.resending op) (agent.step op) := by
  have one {op : Op} {after : UserAgent Host}
      (turn : ∃ added, CallTurn op.cause added agent after) :
      ∃ added, CallSteps op.cause added agent after :=
    let ⟨_, turn⟩ := turn
    ⟨_, single (.calls turn)⟩
  have registered {op : Op} {after : UserAgent Host} (side : RegisterSide agent after) :
      ∃ added, CallSteps op.cause added agent after :=
    registers ⟨_, .refl agent⟩ side
  cases op with
  | startRegistration now =>
    exact Or.inr ⟨nofun, registered ((RegisterSide.refl agent).startRegistration now)⟩
  | stopRegistration now =>
    exact Or.inr ⟨nofun, registered ((RegisterSide.refl agent).stopRegistration now)⟩
  | call id target now => exact Or.inr ⟨nofun, one (CallTurn.call agent id target now)⟩
  | answer id now => exact Or.inr ⟨nofun, one (CallTurn.answer agent id now)⟩
  | reject id status => exact Or.inr ⟨nofun, one (CallTurn.reject agent id status)⟩
  | hangup id now => exact Or.inr ⟨nofun, hangup ⟨_, .refl agent⟩ id now fun _ _ => And.intro⟩
  | shutdown now => exact Or.inr ⟨nofun, shutdown agent now⟩
  | transportDown now => exact Or.inr ⟨nofun, onTransportDown agent now⟩
  | transportUp now =>
    exact Or.inr ⟨nofun, registered ((RegisterSide.refl agent).onTransportUp now)⟩
  | message datagram now =>
    cases parsed : parseMessage datagram with
    | none =>
      have same : agent.step (.message datagram now) = agent := by
        show agent.onMessage datagram now = agent
        unfold onMessage
        rw [parsed]
      rw [same, Op.cause_of_unparsed parsed]
      exact Or.inr ⟨nofun, _, .refl agent⟩
    | some heard =>
      obtain ⟨added, step⟩ := CallStep.onMessage agent parsed now
      exact Or.inl ⟨datagram, now, heard, added, rfl, parsed, step⟩
  | timer now => exact Or.inr ⟨nofun, onTimer agent now⟩
  | takeEvents => exact Or.inr ⟨nofun, _, single (.calls (.rests { Does.refl agent with }))⟩

theorem stepped (op : Op) :
    ∃ added, CallSteps op.cause added (agent.resending op) (agent.step op) := by
  rcases CallSteps.step agent op with ⟨_, _, _, added, rfl, parsed, step⟩ | ⟨-, steps⟩
  · rw [Op.cause_of_parsed parsed]
    exact ⟨added, single step⟩
  · exact steps

end CallSteps

/-! ### Transactions -/

/-- What a turn may do with the transactions: some of a call proceed, are over or are started. -/
inductive Reworks (added : List Action) (start : OrderedMap Transaction.key) :
    OrderedMap Transaction.key → Prop
  | refl : Reworks added start start
  | proceed {pending : OrderedMap Transaction.key} {transaction : Transaction}
      (reworks : Reworks added start pending) (member : transaction ∈ pending.values)
      (ours : transaction.onFinal.isRegister = false) (now : Time) :
    Reworks added start (pending.put (transaction.proceed now))
  | erase {pending : OrderedMap Transaction.key} {transaction : Transaction}
      (reworks : Reworks added start pending) (member : transaction ∈ pending.values)
      (ours : transaction.onFinal.isRegister = false) :
    Reworks added start (pending.erase transaction.key)
  | begin {pending : OrderedMap Transaction.key} {transaction : Transaction}
      (reworks : Reworks added start pending) (sent : .sendSip transaction.packet ∈ added)
      (ours : transaction.onFinal.isRegister = false) :
    Reworks added start (pending.put transaction)

namespace Reworks

variable {start pending : OrderedMap Transaction.key} {added : List Action}

theorem registers (reworks : Reworks added start pending) :
    half true pending = half true start := by
  induction reworks with
  | refl => rfl
  | proceed _ _ ours now hypothesis =>
    exact (half_put_other true ((Transaction.proceed_onFinal ..).symm ▸ ours)).trans hypothesis
  | erase _ member ours hypothesis =>
    exact (half_erase_other true (find_eq_some_iff.mpr ⟨member, rfl⟩) ours).trans hypothesis
  | begin _ _ ours hypothesis => exact (half_put_other true ours).trans hypothesis

/-- What is pending afterwards was pending before or was sent. -/
theorem held (reworks : Reworks added start pending) :
    ∀ transaction ∈ pending.values, (∃ old ∈ start.values, old.packet = transaction.packet) ∨
      .sendSip transaction.packet ∈ added := by
  induction reworks with
  | refl => exact fun transaction member => Or.inl ⟨transaction, member, rfl⟩
  | @proceed _ transaction _ member _ now hypothesis =>
    intro other found
    rcases mem_values_put.mp found with rfl | ⟨-, found⟩
    · rw [transaction.proceed_packet now]
      exact hypothesis transaction member
    · exact hypothesis other found
  | erase _ _ _ hypothesis => exact fun other found => hypothesis other (mem_of_mem_filter found)
  | begin _ sent _ hypothesis =>
    intro other found
    rcases mem_values_put.mp found with rfl | ⟨-, found⟩
    · exact Or.inr sent
    · exact hypothesis other found

end Reworks

theorem CallTurn.reworks {cause : Cause} {before after : UserAgent Host} {added : List Action}
    (turn : CallTurn cause added before after) :
    Reworks added before.transactions after.transactions := by
  have lapses {transaction : Transaction} {context : InviteContext}
      (pending : transaction ∈ before.transactions.values)
      (invites : transaction.onFinal = .invite context) :
      Reworks added before.transactions (before.transactions.erase transaction.key) :=
    .erase .refl pending (invites ▸ rfl)
  cases turn with
  | rests does | replies _ does | acknowledges _ _ does | dialFails _ _ _ does | rings _ _ _ does
  | reinvites _ _ _ does | confirms _ _ _ _ does | hearsBye _ _ does | hearsCancel _ _ _ _ does
  | rejects _ _ _ does | answerFails _ _ _ _ does | accepts _ _ _ _ does | resends _ _ _ does
  | givesUp _ _ _ _ does | abandons _ _ _ does => exact does.transactions ▸ .refl
  | proceeds heard _ _ does ours =>
    exact does.transactions ▸ .proceed .refl heard.pending ours _
  | progresses heard _ _ own _ _ _ does =>
    exact does.transactions ▸ .proceed .refl heard.pending
      (Transaction.not_isRegister_of_provisional own) _
  | cancelsLate heard _ _ own _ _ _ _ begun does =>
    rw [does.transactions]
    exact .begin (.proceed .refl heard.pending (Transaction.not_isRegister_of_provisional own) _)
      (mem_singleton_self _) (begun.not_isRegister rfl)
  | concludes pending ignored does =>
    exact does.transactions ▸ .erase .refl pending (ignored ▸ rfl)
  | forgets pending invites _ _ does => exact does.transactions ▸ lapses pending invites
  | parts heard _ invites _ _ begun does =>
    rw [does.transactions]
    exact .begin (lapses heard.pending invites) (by simp) (begun.not_isRegister rfl)
  | fails pending invites _ _ does => exact does.transactions ▸ lapses pending invites
  | retries pending invites _ _ _ _ begun does =>
    rw [does.transactions]
    exact .begin (lapses pending invites) (by simp) (begun.not_isRegister rfl)
  | connects heard _ invites _ _ _ _ does => exact does.transactions ▸ lapses heard.pending invites
  | drops heard _ invites _ _ _ begun does =>
    rw [does.transactions]
    exact .begin (lapses heard.pending invites) (by simp) (begun.not_isRegister rfl)
  | dials _ _ _ _ begun does =>
    rw [does.transactions]
    exact .begin .refl (by simp) (begun.not_isRegister rfl)
  | cancels _ _ _ _ _ begun does =>
    rw [does.transactions]
    exact .begin .refl (mem_singleton_self _) (begun.not_isRegister rfl)
  | saysBye _ _ begun does =>
    rw [does.transactions]
    exact .begin .refl mem_cons_self (begun.not_isRegister rfl)

/-! ### What every step keeps -/

section Keeping

variable {cause : Cause} {before after : UserAgent Host} {added : List Action}

theorem CallTurn.exists_does (turn : CallTurn cause added before after) :
    ∃ call pending, Does before after call pending added := by
  cases turn <;> exact ⟨_, _, ‹Does _ _ _ _ _›⟩

theorem CallStep.log (step : CallStep cause added before after) :
    after.log = before.log ++ added := by
  cases step with
  | registers _ log => exact log
  | calls turn =>
    obtain ⟨_, _, does⟩ := turn.exists_does
    exact does.log

theorem CallStep.config (step : CallStep cause added before after) :
    after.config = before.config := by
  cases step with
  | registers side => exact side.frame.config
  | calls turn =>
    obtain ⟨_, _, does⟩ := turn.exists_does
    exact does.config

theorem CallStep.draws (step : CallStep cause added before after) :
    after.random = before.random ∧ before.draws ≤ after.draws := by
  cases step with
  | registers side => exact ⟨side.frame.random, side.frame.draws⟩
  | calls turn =>
    obtain ⟨_, _, does⟩ := turn.exists_does
    exact ⟨does.random, does.draws⟩

theorem CallSteps.draws (steps : CallSteps cause added before after) :
    after.random = before.random ∧ before.draws ≤ after.draws := by
  induction steps with
  | refl => exact ⟨rfl, le_rfl⟩
  | tail _ step hypothesis =>
    exact ⟨step.draws.1.trans hypothesis.1, hypothesis.2.trans step.draws.2⟩

theorem CallSteps.log (steps : CallSteps cause added before after) :
    after.log = before.log ++ added := by
  induction steps with
  | refl => exact (append_nil _).symm
  | tail _ step hypothesis => rw [step.log, hypothesis, append_assoc]

theorem UserAgent.resending_keeps (invariant : UserAgent Host → Prop)
    (resent : ∀ (agent : UserAgent Host) (now : Time), invariant agent →
      invariant (agent.retransmit now))
    {agent : UserAgent Host} (holds : invariant agent) (op : Op) :
    invariant (agent.resending op) := by
  cases op with
  | timer now => exact resent agent now holds
  | _ => exact holds

theorem UserAgent.resending_current (agent : UserAgent Host) (op : Op) :
    (agent.resending op).current = agent.current :=
  resending_keeps (fun later => later.current = agent.current) (fun later now same => by
    obtain ⟨host, equal⟩ := later.retransmit_eq now
    rw [equal]
    exact same) rfl op

theorem UserAgent.resending_log (agent : UserAgent Host) (op : Op) :
    (agent.resending op).log = agent.log ++ agent.resent op := by
  cases op with
  | timer now => exact agent.retransmit_log now
  | _ => exact (append_nil _).symm

theorem CallSteps.started {agent : UserAgent Host} {op : Op}
    (steps : CallSteps cause added (agent.resending op) (agent.step op)) :
    agent.started op = added :=
  started_eq (by rw [steps.log, agent.resending_log])

theorem UserAgent.step_log (agent : UserAgent Host) (op : Op) :
    (agent.step op).log = agent.log ++ (agent.resent op ++ agent.started op) := by
  rw [← append_assoc, ← agent.resending_log]
  rcases CallSteps.step agent op with ⟨_, _, _, _, rfl, -, step⟩ | ⟨-, _, steps⟩
  · rw [(CallSteps.single step).started]
    exact step.log
  · rw [steps.started]
    exact steps.log

theorem UserAgent.asked_eq (agent : UserAgent Host) (op : Op) :
    agent.asked op = agent.resent op ++ agent.started op := by
  unfold asked
  rw [agent.step_log op, drop_left]

theorem UserAgent.step_asked (agent : UserAgent Host) (op : Op) :
    (agent.step op).log = agent.log ++ agent.asked op := by
  rw [agent.asked_eq op]
  exact agent.step_log op

theorem CallStep.drives (step : CallStep cause added before after) :
    Drives before.config before.host added after.host := by
  cases step with
  | registers side log =>
    obtain ⟨grown, equal, drives⟩ := side.drives
    cases append_cancel_left (log.symm.trans equal)
    exact drives
  | calls turn =>
    obtain ⟨_, _, does⟩ := turn.exists_does
    exact does.host

theorem CallSteps.drives (steps : CallSteps cause added before after) :
    after.config = before.config ∧ Drives before.config before.host added after.host := by
  induction steps with
  | refl => exact ⟨rfl, .refl⟩
  | tail _ step hypothesis =>
    exact ⟨step.config.trans hypothesis.1, hypothesis.2.trans (hypothesis.1 ▸ step.drives)⟩

theorem UserAgent.foldl_sendRaw_drives (now : Time) (values : List Transaction)
    (agent : UserAgent Host) :
    Drives agent.config agent.host
      ((values.filter (·.due now)).map fun transaction => .sendSip transaction.packet)
      (values.foldl (fun agent transaction =>
        if transaction.due now then agent.sendRaw transaction.packet else agent) agent).host := by
  induction values generalizing agent with
  | nil => exact .refl
  | cons transaction values hypothesis =>
    rw [foldl_cons]
    by_cases due : transaction.due now = true
    · rw [filter_cons, if_pos due, map_cons, if_pos due]
      exact (Drives.refl.sendSip transaction.packet).trans
        (hypothesis (agent.sendRaw transaction.packet))
    · rw [filter_cons, if_neg due, if_neg due]
      exact hypothesis agent

theorem UserAgent.resending_drives (agent : UserAgent Host) (op : Op) :
    (agent.resending op).config = agent.config ∧
      Drives agent.config agent.host (agent.resent op) (agent.resending op).host := by
  cases op with
  | timer now =>
    refine ⟨?_, agent.foldl_sendRaw_drives now agent.transactions.values⟩
    obtain ⟨host, equal⟩ := agent.retransmit_eq now
    show (agent.retransmit now).config = _
    rw [equal]
  | _ => exact ⟨rfl, .refl⟩

theorem UserAgent.step_drives (agent : UserAgent Host) (op : Op) :
    (agent.step op).config = agent.config ∧
      Drives agent.config agent.host (agent.asked op) (agent.step op).host := by
  obtain ⟨added, steps⟩ := CallSteps.stepped agent op
  obtain ⟨config, resent⟩ := agent.resending_drives op
  rw [agent.asked_eq, steps.started]
  exact ⟨steps.drives.1.trans config, resent.trans (config ▸ steps.drives.2)⟩

omit [UserAgentHost Host] in
theorem UserAgent.pending_of_resent {agent : UserAgent Host} {op : Op} {action : Action}
    (resent : action ∈ agent.resent op) :
    ∃ transaction ∈ agent.transactions.values, .sendSip transaction.packet = action := by
  cases op with
  | timer now =>
    obtain ⟨transaction, due, sent⟩ := mem_map.mp resent
    exact ⟨transaction, (mem_filter.mp due).1, sent⟩
  | _ => exact nomatch resent

theorem CallSteps.keep (invariant : UserAgent Host → Prop)
    (kept : ∀ {added : List Action} {before after : UserAgent Host},
      CallStep cause added before after → invariant before → invariant after)
    (steps : CallSteps cause added before after) (holds : invariant before) :
    invariant after := by
  induction steps with
  | refl => exact holds
  | tail _ step hypothesis => exact kept step (hypothesis holds)

theorem UserAgent.step_keeps {invariant : UserAgent Host → Prop}
    (resent : ∀ (agent : UserAgent Host) (now : Time), invariant agent →
      invariant (agent.retransmit now))
    (kept : ∀ {cause : Cause} {added : List Action} {before after : UserAgent Host},
      CallStep cause added before after → invariant before → invariant after)
    {agent : UserAgent Host} (holds : invariant agent) (op : Op) : invariant (agent.step op) := by
  rcases CallSteps.step agent op with ⟨_, _, _, _, -, -, step⟩ | ⟨-, _, steps⟩
  · exact kept step holds
  · exact steps.keep invariant kept (resending_keeps invariant resent holds op)

theorem CallSteps.record (invariant : List Action → UserAgent Host → Prop) {past : List Action}
    (kept : ∀ {past added : List Action} {before after : UserAgent Host},
      CallStep cause added before after → invariant past before →
        invariant (past ++ added) after)
    (steps : CallSteps cause added before after) (holds : invariant past before) :
    invariant (past ++ added) after := by
  induction steps with
  | refl => exact (append_nil past).symm ▸ holds
  | tail _ step hypothesis =>
    exact append_assoc past _ _ ▸ kept step (hypothesis holds)

theorem UserAgent.step_draws (agent : UserAgent Host) (op : Op) :
    (agent.step op).random = agent.random ∧ agent.draws ≤ (agent.step op).draws := by
  rcases CallSteps.step agent op with ⟨_, _, _, _, rfl, -, step⟩ | ⟨-, _, steps⟩
  · exact step.draws
  · have ready : (agent.resending op).random = agent.random ∧
        agent.draws ≤ (agent.resending op).draws :=
      resending_keeps (fun later => later.random = agent.random ∧ agent.draws ≤ later.draws)
        (fun later now both => by
          obtain ⟨host, equal⟩ := later.retransmit_eq now
          rw [equal]
          exact both) ⟨rfl, le_rfl⟩ op
    exact ⟨steps.draws.1.trans ready.1, ready.2.trans steps.draws.2⟩

theorem UserAgent.holds_run (invariant : UserAgent Host → Prop)
    (resent : ∀ (agent : UserAgent Host) (now : Time), invariant agent →
      invariant (agent.retransmit now))
    (kept : ∀ {cause : Cause} {added : List Action} {before after : UserAgent Host},
      CallStep cause added before after → invariant before → invariant after)
    {agent : UserAgent Host} (holds : invariant agent) (ops : List Op) :
    invariant (run UserAgent.step agent ops) :=
  loop_keeps invariant ops (fun _ op _ holds => step_keeps resent kept holds op) holds

end Keeping

end Steps

end KetPhone.Core
