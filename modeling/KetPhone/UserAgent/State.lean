/-
This file models the state of `core/user_agent.cpp`, the SIP user agent for one
account and at most one call, and the primitives that change it. The handlers that
the source keeps as closures are the constructors of `FinalHandler`; the host is a
type with the operations of `UserAgentHost`; the random generator is a stream of
draws. A transaction keeps the request it sent, and that request is the one its
handler was made for. The log is the only addition: it records, in order, what the
agent asked of its surroundings.
-/

import KetPhone.Digest
import KetPhone.OrderedMap
import KetPhone.Packet
import KetPhone.Run

namespace KetPhone.Core

open Sip List

/-! ### Time -/

/-- Nanoseconds of the steady clock, and spans of it. -/
abbrev Time := Int

def milliseconds (count : Int) : Time := count * 1000000

def seconds (count : Int) : Time := count * 1000000000

def kT1 : Time := milliseconds 500

def kT2 : Time := seconds 4

def kTransactionTimeout : Time := 64 * kT1

def kInviteAfterProvisional : Time := seconds 180

def kRegisterRetry : Time := seconds 30

def kMinimumRefresh : Time := seconds 5

/-- The tag of the one crypto line this side offers. -/
def kOfferTag : UInt32 := 1

/-! ### The host and the events -/

inductive EventKind where
  | registration
  | callIncoming
  | callProgress
  | callAnswered
  | callEnded
  deriving DecidableEq, Repr

inductive EndReason where
  | none
  | own
  | remoteHangup
  | remoteCancelled
  | rejected
  | timeout
  | mediaFailed
  | shutdown
  deriving DecidableEq, Repr

structure Event where
  kind : EventKind
  callId : Int32 := 0
  status : Int := 0
  endReason : EndReason := .none
  remote : Bytes := []
  remoteDisplayName : Bytes := []
  correlationId : Bytes := []
  deriving DecidableEq

/-- SRTP master keys and salts of one call. -/
structure MediaKeys where
  own : Bytes
  remote : Bytes
  deriving DecidableEq, Repr

structure RemoteMedia where
  address : Bytes
  port : UInt16
  srtp : Option MediaKeys
  deriving DecidableEq, Repr

/-- What the user agent needs from its surroundings, with `allocate_call_id`. -/
class UserAgentHost (Host : Type) where
  sendSip : Bytes → Host → Host
  openMedia : Host → UInt16 × Host
  startMedia : RemoteMedia → Host → Bool × Host
  closeMedia : Host → Host
  allocateCallId : Host → Int32 × Host

/-- The results of `random_hex`, `random_u32` and `secure_random` by the number of the draw. The
system's generator may fail. -/
structure Random where
  hex : Nat → Nat → Bytes
  u32 : Nat → UInt32
  secure : Nat → Option Bytes
  secure_length : ∀ draw key, secure draw = some key → key.length = kSdesKeyLength

/-- The branch of a request that takes the given draw. -/
def Random.branch (random : Random) (draw : Nat) : Bytes := ascii "z9hG4bK" ++ random.hex draw 10

/-- The branches of the first draws differ. -/
def Random.Distinct (random : Random) (draws : Nat) : Prop :=
  ∀ first second, first < draws → second < draws →
    random.branch first = random.branch second → first = second

theorem Random.Distinct.mono {random : Random} {draws fewer : Nat}
    (distinct : random.Distinct draws)
    (less : fewer ≤ draws) : random.Distinct fewer :=
  fun first second firstLess secondLess =>
    distinct first second (firstLess.trans_le less) (secondLess.trans_le less)

/-- A host on which everything succeeds, with the default counter of call ids. -/
structure IdealHost where
  nextCall : Int32 := 1000000
  deriving DecidableEq

instance : UserAgentHost IdealHost where
  sendSip _ host := host
  openMedia host := (4000, host)
  startMedia _ host := (true, host)
  closeMedia host := host
  allocateCallId host := (host.nextCall, { nextCall := host.nextCall + 1 })

/-- A generator whose draws are all different. -/
def Random.counting : Random where
  hex draw _ := decimal draw
  u32 draw := UInt32.ofNat draw
  secure _ := some (List.replicate kSdesKeyLength 7)
  secure_length _ _ drawn := Option.some.inj drawn ▸ List.length_replicate

theorem Random.counting_distinct (draws : Nat) : Random.counting.Distinct draws :=
  fun _ _ _ _ same => decimal_injective (append_cancel_left same)

inductive CommandResult where
  | ok
  | invalidArgument
  | state
  | notFound
  deriving DecidableEq, Repr

/-! ### State -/

/-- The closures that the source passes to `send_request` for a final response. -/
inductive FinalHandler where
  | register (expires : UInt32) (authenticated : Bool)
  | invite (context : InviteContext)
  | ignore
  deriving DecidableEq

/-- A handler belongs to the request whose answer it waits for. -/
def FinalHandler.Fits (handler : FinalHandler) (request : Request) (branch : Bytes)
    (onProvisional : Option Int32) : Prop :=
  match handler with
  | register expires _ =>
    request.method = ascii "REGISTER" ∧
      Headers.value request.extra (ascii "Expires") = some (decimal expires.toNat) ∧
      onProvisional = none ∧ request.body = []
  | invite context =>
    request.method = ascii "INVITE" ∧ branch = context.branch ∧ request.uri = context.uri ∧
      request.sender = context.sender ∧ request.callId = context.sipCallId ∧
      request.cseq = context.cseq ∧ onProvisional = some context.callId ∧ context.branch ≠ []
  | ignore =>
    (request.method = ascii "BYE" ∨ request.method = ascii "CANCEL") ∧ onProvisional = none ∧
      request.body = []

/-- The key of a transaction in the map. -/
def transactionKey (branch method : Bytes) : Bytes := branch ++ ascii " " ++ method

structure Transaction where
  request : Request
  branch : Bytes
  retransmitting : Bool
  interval : Time
  retransmitAt : Time
  deadline : Time
  /-- The call id that the provisional handler of an INVITE keeps. -/
  onProvisional : Option Int32
  onFinal : FinalHandler
  fits : onFinal.Fits request branch onProvisional

namespace Transaction

variable (transaction : Transaction)
variable (now : Time)

def method : Bytes := transaction.request.method

/-- What the transaction sends, and sends again. -/
def packet : Packet := .request transaction.request transaction.branch

def key : Bytes := transactionKey transaction.branch transaction.method

/-- What a provisional response does to the timers of its transaction. -/
def proceed (now : Time) : Transaction :=
  if transaction.method = ascii "INVITE" then
    { transaction with
      retransmitting := false
      deadline := now + kInviteAfterProvisional }
  else { transaction with interval := kT2 }

/-- Whether the request is sent again. -/
def due (now : Time) : Bool :=
  now < transaction.deadline && transaction.retransmitting && transaction.retransmitAt ≤ now

/-- The timers after a retransmission. -/
def backOff (now : Time) : Transaction :=
  if transaction.due now then
    let interval :=
      if transaction.method = ascii "INVITE" then transaction.interval * 2
      else min (transaction.interval * 2) kT2
    { transaction with interval, retransmitAt := now + interval }
  else transaction

@[simp]
theorem proceed_packet : (transaction.proceed now).packet = transaction.packet := by
  unfold proceed
  split <;> rfl

@[simp]
theorem proceed_request : (transaction.proceed now).request = transaction.request := by
  unfold proceed
  split <;> rfl

@[simp]
theorem proceed_onFinal : (transaction.proceed now).onFinal = transaction.onFinal := by
  unfold proceed
  split <;> rfl

@[simp]
theorem proceed_key : (transaction.proceed now).key = transaction.key := by
  unfold proceed
  split <;> rfl

@[simp]
theorem backOff_packet : (transaction.backOff now).packet = transaction.packet := by
  unfold backOff
  split <;> rfl

@[simp]
theorem backOff_request : (transaction.backOff now).request = transaction.request := by
  unfold backOff
  split <;> rfl

@[simp]
theorem backOff_onFinal : (transaction.backOff now).onFinal = transaction.onFinal := by
  unfold backOff
  split <;> rfl

@[simp]
theorem backOff_key : (transaction.backOff now).key = transaction.key := by
  unfold backOff
  split <;> rfl

end Transaction

inductive CallState where
  | calling
  | ringing
  | answering
  | confirmed
  deriving DecidableEq, Repr

structure Call where
  id : Int32
  outgoing : Bool
  state : CallState
  sipCallId : Bytes
  localTag : Bytes
  localHeader : Bytes
  remoteHeader : Bytes
  remoteTarget : Bytes := []
  remoteUri : Bytes
  remoteDisplayName : Bytes := []
  localCseq : UInt32 := 1
  mediaOpen : Bool := false
  localSdp : Bytes := []
  mediaPort : UInt16 := 0
  sdpSession : UInt64 := 0
  sdpVersion : UInt64 := 1
  srtpKey : Bytes := []
  inviteUri : Bytes := []
  inviteBranch : Bytes := []
  inviteCseq : UInt32 := 0
  authenticated : Bool := false
  provisional : Bool := false
  lastProgress : Int := 0
  cancelRequested : Bool := false
  cancelSent : Bool := false
  ack : Option Ack := none
  invite : Option Message := none
  offer : AudioDescription := {}
  lastResponse : Option Response := none
  resendInterval : Time := 0
  resendAt : Time := 0
  ackDeadline : Time := 0
  correlationId : Bytes := []

/-- A call with the port of its media and the session number of its SDP. -/
def Call.withMedia (call : Call) (port : UInt16) (session : UInt32) : Call :=
  { call with
    mediaOpen := port ≠ 0
    mediaPort := port
    sdpSession := session.toUInt64 }

structure Registration where
  wanted : Bool := false
  registered : Bool := false
  inFlight : Bool := false
  callId : Bytes
  fromTag : Bytes
  cseq : UInt32 := 1
  nextAttempt : Option Time := none
  deriving DecidableEq

/-- What the agent asked of its surroundings, and the beginning of each call. -/
inductive Action where
  | sendSip (packet : Packet)
  | openMedia (port : UInt16)
  | startMedia (remote : RemoteMedia) (started : Bool)
  | closeMedia
  | emit (event : Event)
  | begin (outgoing : Bool) (id : Int32) (sipCallId : Bytes)
  deriving DecidableEq

structure UserAgent (Host : Type) where
  config : UserAgentConfig
  host : Host
  random : Random
  draws : Nat
  transactions : OrderedMap Transaction.key
  registration : Registration
  current : Option Call
  events : List Event
  shuttingDown : Bool
  log : List Action

/-! ### Descriptions and keys -/

namespace UserAgentConfig

variable (config : UserAgentConfig)

/-- Whether a far end's offer or answer suits this side, with the crypto line it chooses when
SRTP is on. -/
def acceptable (media : AudioDescription) : Option (Option SdesCrypto) :=
  if !media.offersPcma then none
  else if !config.srtp then (if media.savp then none else some none)
  else media.crypto.head?.map some

/-- The crypto line of this side's SDP; an answer keeps the offer's profile and accepts the chosen
line by its tag. -/
def localCryptoFor (call : Call) (answering : Option AudioDescription) : Option LocalCrypto :=
  if config.srtp then
    match answering with
    | none => some { tag := kOfferTag, key := call.srtpKey }
    | some offer =>
      match config.acceptable offer with
      | some (some chosen) => some { savp := offer.savp, tag := chosen.tag, key := call.srtpKey }
      | _ => some { tag := kOfferTag, key := call.srtpKey }
  else none

/-- This side's SDP for the call, and the call with its SDP version counted up. -/
def localSdpFor (call : Call) (answering : Option AudioDescription) : Bytes × Call :=
  (buildAudioSdp config.localAddress call.mediaPort call.sdpSession call.sdpVersion
    (config.localCryptoFor call answering), { call with sdpVersion := call.sdpVersion + 1 })

def remoteMediaFor (call : Call) (media : AudioDescription) (key : Option SdesCrypto) :
    RemoteMedia :=
  { address := media.address
    port := media.port
    srtp := if config.srtp then key.map fun line => { own := call.srtpKey, remote := line.key }
      else none }

/-- The far end's answer when it can be used. With SRTP it must take up the key this side offered,
by its tag. -/
def usableAnswer (body : Bytes) : Option (AudioDescription × Option SdesCrypto) :=
  match parseAudio body with
  | none => none
  | some answer =>
    match config.acceptable answer with
    | none => none
    | some key =>
      if config.srtp then
        (answer.crypto.find? fun line => line.tag = kOfferTag).map fun line => (answer, some line)
      else some (answer, key)

end UserAgentConfig

/-! ### Primitives -/

namespace UserAgent

variable {Host : Type}

/-- The result of `random_hex` at the next draw. -/
def nextHex (size : Nat) (agent : UserAgent Host) : Bytes := agent.random.hex agent.draws size

def drawn (agent : UserAgent Host) : UserAgent Host := { agent with draws := agent.draws + 1 }

/-- The branch that a new request gets. -/
def freshBranch (agent : UserAgent Host) : Bytes := agent.random.branch agent.draws

theorem freshBranch_ne_nil (agent : UserAgent Host) : agent.freshBranch ≠ [] :=
  append_ne_nil_of_left_ne_nil (by decide) _

/-- Keeps a changed call. -/
def setCall (call : Call) (agent : UserAgent Host) : UserAgent Host :=
  { agent with current := some call }

def emit (event : Event) (agent : UserAgent Host) : UserAgent Host :=
  { agent with events := agent.events ++ [event], log := agent.log ++ [.emit event] }

variable [UserAgentHost Host]

def sendRaw (packet : Packet) (agent : UserAgent Host) : UserAgent Host :=
  { agent with
    host := UserAgentHost.sendSip (packet.bytes agent.config) agent.host
    log := agent.log ++ [.sendSip packet] }

/-- `send_raw(build_response(...))`. -/
def respond (response : Response) (agent : UserAgent Host) : UserAgent Host :=
  agent.sendRaw (.response response)

def openMedia (agent : UserAgent Host) : UInt16 × UserAgent Host :=
  let (port, host) := UserAgentHost.openMedia agent.host
  (port, { agent with host, log := agent.log ++ [.openMedia port] })

def startMedia (remote : RemoteMedia) (agent : UserAgent Host) : Bool × UserAgent Host :=
  let (started, host) := UserAgentHost.startMedia remote agent.host
  (started, { agent with host, log := agent.log ++ [.startMedia remote started] })

def closeMedia (agent : UserAgent Host) : UserAgent Host :=
  { agent with
    host := UserAgentHost.closeMedia agent.host
    log := agent.log ++ [.closeMedia] }

def allocateCallId (agent : UserAgent Host) : Int32 × UserAgent Host :=
  let (id, host) := UserAgentHost.allocateCallId agent.host
  (id, { agent with host })

/-- `call_ = std::move(call)`. -/
def beginCall (call : Call) (agent : UserAgent Host) : UserAgent Host :=
  { agent with
    current := some call
    log := agent.log ++ [.begin call.outgoing call.id call.sipCallId] }

/-- Draws this side's SRTP key for the call when SRTP is on; false if the system generator
failed. -/
def newSrtpKey (call : Call) (agent : UserAgent Host) : Bool × Call × UserAgent Host :=
  if agent.config.srtp then
    match agent.random.secure agent.draws with
    | some key => (true, { call with srtpKey := key }, agent.drawn)
    | none => (false, { call with srtpKey := List.replicate kSdesKeyLength 0 }, agent.drawn)
  else (true, call, agent)

/-- `send_request` once the branch is known. -/
def startTransaction (request : Request) (branch : Bytes) (now : Time) (onFinal : FinalHandler)
    (onProvisional : Option Int32) (fits : onFinal.Fits request branch onProvisional)
    (agent : UserAgent Host) : UserAgent Host :=
  let transaction : Transaction :=
    { request
      branch
      retransmitting := !agent.config.reliable
      interval := kT1
      retransmitAt := now + kT1
      deadline := now + kTransactionTimeout
      onProvisional
      onFinal
      fits }
  { agent.sendRaw transaction.packet with
    transactions := agent.transactions.put transaction }

/-- Sends a request and waits for its answer, on a new branch when none is given. -/
def sendRequest (request : Request) (now : Time) (onFinal : FinalHandler)
    (onProvisional : Option Int32) (branch : Bytes)
    (fits : ∀ used, branch = [] ∨ used = branch → onFinal.Fits request used onProvisional)
    (agent : UserAgent Host) : UserAgent Host :=
  if missing : branch = [] then
    agent.drawn.startTransaction request agent.freshBranch now onFinal onProvisional
      (fits _ (Or.inl missing))
  else
    agent.startTransaction request branch now onFinal onProvisional (fits _ (Or.inr rfl))

/-- The header line that answers a challenge, if it can be answered. -/
def authorizationFor (challenge : Message) (method uri : Bytes) (agent : UserAgent Host) :
    Option Bytes × UserAgent Host :=
  let proxy := challenge.status = 407
  match challenge.header (if proxy then "proxy-authenticate" else "www-authenticate") with
  | none => (none, agent)
  | some value =>
    match parseChallenge value with
    | none => (none, agent)
    | some parsed =>
      let credentials := { username := agent.config.extension, password := agent.config.password }
      let cnonce := if parsed.qopAuth then agent.nextHex 8 else []
      ((authorizationValue credentials parsed method uri cnonce).map fun authorization =>
          ascii (if proxy then "Proxy-Authorization" else "Authorization") ++ ascii ": " ++
            authorization,
        if parsed.answerable && parsed.qopAuth then agent.drawn else agent)

/-- The authorization line as a header of a request. -/
def authorizationHeader (authorization : Bytes) : List (Bytes × Bytes) :=
  if authorization = [] then []
  else
    match findByte 58 authorization with
    | none => [(authorization, trim authorization)]
    | some colon => [(authorization.take colon, trim (authorization.drop (colon + 1)))]

end UserAgent

end KetPhone.Core
