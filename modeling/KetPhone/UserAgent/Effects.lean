/-
This file follows what the agent asks of its surroundings. A stretch of its code is
summed up by the call and the transactions that it leaves and by what it asked for,
in order; the host changes only through what is asked. The functions that the steps
of calls are made of are summed up here.
-/

import KetPhone.UserAgent.Registering

namespace KetPhone.Core

open Sip List OrderedMap UserAgent

variable {Host : Type}

/-! ### Hosts -/

/-- What is asked of the media half of the host. -/
def Action.isMedia : Action → Bool
  | .openMedia _ => true
  | .startMedia _ _ => true
  | .closeMedia => true
  | _ => false

@[simp]
theorem Action.isMedia_sendSip (packet : Packet) : (sendSip packet).isMedia = false := rfl

@[simp]
theorem Action.isMedia_emit (event : Event) : (emit event).isMedia = false := rfl

@[simp]
theorem Action.isMedia_begin (outgoing : Bool) (id : Int32) (sipCallId : Bytes) :
    (begin outgoing id sipCallId).isMedia = false := rfl

@[simp]
theorem Action.isMedia_startMedia (remote : RemoteMedia) (started : Bool) :
    (startMedia remote started).isMedia = true := rfl

/-- The branch and the method of a request that is answered; an ACK is not. -/
def Packet.ticket : Packet → Option (Bytes × Bytes)
  | .request content branch =>
    if content.method = ascii "ACK" then none else some (branch, content.method)
  | _ => none

def Action.ticket : Action → Option (Bytes × Bytes)
  | .sendSip packet => packet.ticket
  | _ => none

/-- The requests among what was asked for. -/
def tickets (added : List Action) : List (Bytes × Bytes) := added.filterMap Action.ticket

section Hosts

variable [UserAgentHost Host]

/-- The host did what it was asked, in order and nothing else, but that it may have given out call
ids. -/
inductive Drives (config : UserAgentConfig) (start : Host) : List Action → Host → Prop
  | refl : Drives config start [] start
  | sendSip {actions : List Action} {host : Host} (drives : Drives config start actions host)
      (packet : Packet) : Drives config start (actions ++ [.sendSip packet])
        (UserAgentHost.sendSip (packet.bytes config) host)
  | openMedia {actions : List Action} {host : Host} (drives : Drives config start actions host) :
    Drives config start (actions ++ [.openMedia (UserAgentHost.openMedia host).1])
      (UserAgentHost.openMedia host).2
  | startMedia {actions : List Action} {host : Host} (drives : Drives config start actions host)
      (remote : RemoteMedia) :
    Drives config start (actions ++ [.startMedia remote (UserAgentHost.startMedia remote host).1])
      (UserAgentHost.startMedia remote host).2
  | closeMedia {actions : List Action} {host : Host} (drives : Drives config start actions host) :
    Drives config start (actions ++ [.closeMedia]) (UserAgentHost.closeMedia host)
  | emit {actions : List Action} {host : Host} (drives : Drives config start actions host)
      (event : Event) : Drives config start (actions ++ [.emit event]) host
  | begin {actions : List Action} {host : Host} (drives : Drives config start actions host)
      (outgoing : Bool) (id : Int32) (sipCallId : Bytes) :
    Drives config start (actions ++ [.begin outgoing id sipCallId]) host
  | allocate {actions : List Action} {host : Host} (drives : Drives config start actions host) :
    Drives config start actions (UserAgentHost.allocateCallId host).2

theorem Drives.trans {config : UserAgentConfig} {first second third : Host}
    {early late : List Action}
    (drives : Drives config first early second) (more : Drives config second late third) :
    Drives config first (early ++ late) third := by
  induction more with
  | refl => exact (append_nil early).symm ▸ drives
  | sendSip _ packet hypothesis =>
    rw [← append_assoc]
    exact hypothesis.sendSip packet
  | openMedia _ hypothesis =>
    rw [← append_assoc]
    exact hypothesis.openMedia
  | startMedia _ remote hypothesis =>
    rw [← append_assoc]
    exact hypothesis.startMedia remote
  | closeMedia _ hypothesis =>
    rw [← append_assoc]
    exact hypothesis.closeMedia
  | emit _ event hypothesis =>
    rw [← append_assoc]
    exact hypothesis.emit event
  | begin _ outgoing id sipCallId hypothesis =>
    rw [← append_assoc]
    exact hypothesis.begin outgoing id sipCallId
  | allocate _ hypothesis => exact hypothesis.allocate

theorem RegisterSide.drives {before after : UserAgent Host} (side : RegisterSide before after) :
    ∃ added, after.log = before.log ++ added ∧
      Drives before.config before.host added after.host := by
  induction side with
  | refl => exact ⟨[], (append_nil _).symm, .refl⟩
  | drawn _ hypothesis | close _ hypothesis | setRegistration _ _ _ _ hypothesis
  | erase _ _ _ hypothesis | proceed _ _ _ _ hypothesis => exact hypothesis
  | report _ status hypothesis =>
    obtain ⟨added, log, drives⟩ := hypothesis
    exact ⟨_, (congrArg (· ++ _) log).trans (append_assoc _ _ _), drives.emit _⟩
  | sendRegister side _ _ _ _ hypothesis =>
    obtain ⟨added, log, drives⟩ := hypothesis
    unfold UserAgent.sendRegister UserAgent.sendRequest
    rw [dif_pos rfl]
    refine ⟨_, (congrArg (· ++ _) log).trans (append_assoc _ _ _), ?_⟩
    have sent := drives.sendSip
    rw [← side.frame.config] at sent
    rw [← side.frame.config]
    exact sent _

end Hosts

/-! ### Calls, INVITEs and descriptions -/

namespace UserAgent

theorem callOf_eq_some {agent : UserAgent Host} {context : InviteContext} {call : Call}
    (found : agent.callOf context = some call) :
    agent.current = some call ∧ call.id = context.callId ∧ call.inviteBranch = context.branch := by
  obtain ⟨present, named⟩ := Option.filter_eq_some_iff.mp found
  rw [Bool.and_eq_true, decide_eq_true_iff, decide_eq_true_iff] at named
  exact ⟨present, named⟩

theorem sameCall_eq_some {agent : UserAgent Host} {request : Message} {call : Call}
    (found : agent.sameCall request = some call) :
    agent.current = some call ∧ call.sipCallId = request.headerOr "call-id" := by
  obtain ⟨present, named⟩ := Option.filter_eq_some_iff.mp found
  exact ⟨present, of_decide_eq_true named⟩

end UserAgent

namespace Transaction

variable {transaction : Transaction}

theorem branch_ne_nil {context : InviteContext}
    (handler : transaction.onFinal = .invite context) : context.branch ≠ [] := by
  have fits := transaction.fits
  rw [handler] at fits
  exact fits.2.2.2.2.2.2.2

theorem not_isRegister_of_provisional {id : Int32}
    (named : transaction.onProvisional = some id) : transaction.onFinal.isRegister = false := by
  match handler : transaction.onFinal with
  | .register _ _ =>
    have fits := transaction.fits
    rw [handler] at fits
    exact nomatch fits.2.2.1.symm.trans named
  | .invite _ | .ignore => rfl

end Transaction

namespace UserAgentConfig

theorem acceptable_line {config : UserAgentConfig} {media : AudioDescription}
    {key : Option SdesCrypto} (usable : config.acceptable media = some key)
    (secure : config.srtp = true) : ∃ line, media.crypto.head? = some line ∧ key = some line := by
  unfold acceptable at usable
  rw [secure] at usable
  split at usable
  · cases usable
  · rw [Bool.not_true, if_neg Bool.false_ne_true, Option.map_eq_some_iff] at usable
    obtain ⟨line, first, rfl⟩ := usable
    exact ⟨line, first, rfl⟩

theorem usableAnswer_parsed {config : UserAgentConfig} {body : Bytes} {answer : AudioDescription}
    {key : Option SdesCrypto} (usable : config.usableAnswer body = some (answer, key)) :
    parseAudio body = some answer ∧ ∃ chosen, config.acceptable answer = some chosen := by
  unfold usableAnswer at usable
  split at usable
  · cases usable
  next media parsed =>
    split at usable
    · cases usable
    next chosen acceptable =>
      have same : media = answer := by
        split at usable
        · obtain ⟨line, -, equal⟩ := Option.map_eq_some_iff.mp usable
          exact congrArg Prod.fst equal
        · exact congrArg Prod.fst (Option.some.inj usable)
      subst same
      exact ⟨parsed, chosen, acceptable⟩

theorem usableAnswer_line {config : UserAgentConfig} {body : Bytes} {answer : AudioDescription}
    {key : Option SdesCrypto} (usable : config.usableAnswer body = some (answer, key))
    (secure : config.srtp = true) :
    ∃ line, (answer.crypto.find? fun line => line.tag = kOfferTag) = some line ∧
      key = some line := by
  unfold usableAnswer at usable
  split at usable
  · cases usable
  · split at usable
    · cases usable
    · rw [if_pos secure, Option.map_eq_some_iff] at usable
      obtain ⟨line, found, equal⟩ := usable
      cases equal
      exact ⟨line, found, rfl⟩

end UserAgentConfig

/-- A text is this side's SDP, with the crypto line, if any, of a key. -/
def UserAgentConfig.Describes (config : UserAgentConfig) (answering : Option AudioDescription)
    (key sdp : Bytes) : Prop :=
  ∃ call : Call, call.srtpKey = key ∧ sdp = (config.localSdpFor call answering).1

/-- What the far end's media is taken to be when a ringing call is answered with a key. -/
def UserAgentConfig.remoteOf (config : UserAgentConfig) (call : Call) (own : Bytes) :
    RemoteMedia :=
  config.remoteMediaFor { call with srtpKey := own } call.offer
    (config.acceptable call.offer).join

theorem UserAgent.newSrtpKey_call (agent : UserAgent Host) (call : Call) :
    ∃ srtpKey, (agent.newSrtpKey call).2.1 = { call with srtpKey } ∧
      (call.srtpKey.length ≤ kSdesKeyLength → srtpKey.length ≤ kSdesKeyLength) := by
  unfold newSrtpKey
  split
  · split
    next key drawn => exact ⟨key, rfl, fun _ => (agent.random.secure_length _ _ drawn).le⟩
    · exact ⟨_, rfl, fun _ => List.length_replicate.le⟩
  · exact ⟨call.srtpKey, rfl, id⟩

/-! ### Requests, responses and events of a call -/

def byeRequest (call : Call) : Request :=
  { method := ascii "BYE"
    uri := call.remoteTarget
    sender := call.localHeader
    recipient := call.remoteHeader
    callId := call.sipCallId
    cseq := call.localCseq }

/-- The BYE to the acceptance of an INVITE whose call is gone. -/
def lateByeRequest (context : InviteContext) (response : Message) : Request :=
  { method := ascii "BYE"
    uri := (UserAgent.ackRequest context response).uri
    sender := context.sender
    recipient := (UserAgent.ackRequest context response).recipient
    callId := context.sipCallId
    cseq := context.cseq + 1 }

def cancelRequest (call : Call) : Request :=
  { method := ascii "CANCEL"
    uri := call.inviteUri
    sender := call.localHeader
    recipient := ascii "<" ++ call.inviteUri ++ ascii ">"
    callId := call.sipCallId
    cseq := call.inviteCseq }

/-- What the end of a call asks for. -/
def Call.farewell (call : Call) (reason : EndReason) (status : Int) : List Action :=
  (if call.mediaOpen then [.closeMedia] else []) ++
    [.emit
      { kind := .callEnded
        callId := call.id
        status
        endReason := reason
        remote := call.remoteUri
        remoteDisplayName := call.remoteDisplayName }]

/-- The call once its INVITE is accepted. -/
def Call.confirm (call : Call) (ack : Ack) : Call :=
  { call with
    ack := some ack
    remoteHeader := ack.request.recipient
    remoteTarget := ack.request.uri
    state := .confirmed }

/-- A transaction as it is started. -/
structure Transaction.Begun (transaction : Transaction) (request : Request) (branch : Bytes)
    (onFinal : FinalHandler) : Prop where
  request : transaction.request = request
  branch : transaction.branch = branch
  onFinal : transaction.onFinal = onFinal
  interval : transaction.interval = kT1

theorem Transaction.Begun.packet {transaction : Transaction} {request : Request} {branch : Bytes}
    {onFinal : FinalHandler} (begun : transaction.Begun request branch onFinal) :
    transaction.packet = .request request branch := by
  unfold Transaction.packet
  rw [begun.request, begun.branch]

theorem Transaction.Begun.not_isRegister {transaction : Transaction} {request : Request}
    {branch : Bytes} {onFinal : FinalHandler} (begun : transaction.Begun request branch onFinal)
    (calls : onFinal.isRegister = false) : transaction.onFinal.isRegister = false :=
  begun.onFinal ▸ calls

/-- The call that `send_invite` leaves. -/
def Call.invited (call : Call) (branch : Bytes) : Call :=
  { call with
    localCseq := call.localCseq + 1
    inviteCseq := call.localCseq
    inviteBranch := branch
    provisional := false }

/-- The INVITE transaction that `send_invite` starts. -/
def UserAgent.inviteTransaction (agent : UserAgent Host) (call : Call) (authorization : Bytes)
    (now : Time) : Transaction :=
  { request := UserAgent.inviteRequest call authorization
    branch := agent.freshBranch
    retransmitting := !agent.config.reliable
    interval := kT1
    retransmitAt := now + kT1
    deadline := now + kTransactionTimeout
    onProvisional := some call.id
    onFinal := .invite (UserAgent.inviteContext call agent.freshBranch)
    fits := ⟨rfl, rfl, rfl, rfl, rfl, rfl, rfl, agent.freshBranch_ne_nil⟩ }

/-! ### Stretches of code -/

/-- A branch that the agent drew on the way. -/
def Fresh (before after : UserAgent Host) (branch : Bytes) : Prop :=
  ∃ draw, (before.draws ≤ draw ∧ draw < after.draws) ∧ branch = before.random.branch draw

variable [UserAgentHost Host]

theorem UserAgent.sendInvite_eq (agent : UserAgent Host) (call : Call) (authorization : Bytes)
    (now : Time) :
    agent.sendInvite call authorization now =
      { agent with
        host := UserAgentHost.sendSip
          ((agent.inviteTransaction call authorization now).packet.bytes agent.config) agent.host
        draws := agent.draws + 1
        transactions := agent.transactions.put (agent.inviteTransaction call authorization now)
        current := some (call.invited agent.freshBranch)
        log := agent.log ++
          [.sendSip (agent.inviteTransaction call authorization now).packet] } := by
  unfold sendInvite sendRequest
  rw [dif_neg agent.freshBranch_ne_nil]
  rfl

theorem Fresh.endCall {before after : UserAgent Host} {branch : Bytes}
    (fresh : Fresh before after branch) (reason : EndReason) (status : Int) :
    Fresh before (after.endCall reason status) branch := by
  obtain ⟨draw, ⟨late, early⟩, named⟩ := fresh
  exact ⟨draw, ⟨late, early.trans_le (LeavesRegistration.endCall after reason status).draws⟩, named⟩

/-- What a stretch of the agent's code does to a call: the call and the transactions it leaves, and
what it asks for. The host did that and nothing else, and the registration is as it was. -/
structure Does (before after : UserAgent Host) (call : Option Call)
    (pending : OrderedMap Transaction.key) (added : List Action) : Prop where
  config : after.config = before.config
  random : after.random = before.random
  draws : before.draws ≤ after.draws
  shuttingDown : after.shuttingDown = before.shuttingDown
  registration : after.registration = before.registration
  current : after.current = call
  transactions : after.transactions = pending
  log : after.log = before.log ++ added
  host : Drives before.config before.host added after.host

namespace Does

variable {before after : UserAgent Host} {call : Option Call}
  {pending : OrderedMap Transaction.key} {added : List Action}

theorem refl (agent : UserAgent Host) :
    Does agent agent agent.current agent.transactions [] :=
  ⟨rfl, rfl, le_rfl, rfl, rfl, rfl, rfl, (append_nil _).symm, .refl⟩

theorem without (agent : UserAgent Host) (transaction : Transaction) :
    Does agent (agent.without transaction) agent.current
      (agent.transactions.erase transaction.key) [] :=
  { refl agent with transactions := rfl }

theorem drawn (does : Does before after call pending added) :
    Does before after.drawn call pending added :=
  { does with draws := does.draws.trans (Nat.le_succ _) }

theorem setCall (does : Does before after call pending added) (next : Call) :
    Does before (after.setCall next) (some next) pending added :=
  { does with current := rfl }

/-- One more action, which the host does. -/
theorem act (does : Does before after call pending added) {later : UserAgent Host}
    {action : Action}
    (same : later = { after with
      host := later.host
      events := later.events
      log := after.log ++ [action] })
    (host : Drives after.config after.host [action] later.host) :
    Does before later call pending (added ++ [action]) where
  config := (congrArg UserAgent.config same).trans does.config
  random := (congrArg UserAgent.random same).trans does.random
  draws := does.draws.trans (congrArg UserAgent.draws same).ge
  shuttingDown := (congrArg UserAgent.shuttingDown same).trans does.shuttingDown
  registration := (congrArg UserAgent.registration same).trans does.registration
  current := (congrArg UserAgent.current same).trans does.current
  transactions := (congrArg UserAgent.transactions same).trans does.transactions
  log := by rw [congrArg UserAgent.log same, does.log, append_assoc]
  host := does.host.trans (does.config ▸ host)

theorem emit (does : Does before after call pending added) (event : Event) :
    Does before (after.emit event) call pending (added ++ [.emit event]) :=
  does.act rfl (Drives.refl.emit event)

theorem beginCall (does : Does before after call pending added) (next : Call) :
    Does before (after.beginCall next) (some next) pending
      (added ++ [.begin next.outgoing next.id next.sipCallId]) :=
  (does.setCall next).act rfl (Drives.refl.begin _ _ _)

theorem newSrtpKey (does : Does before after call pending added) (next : Call) :
    Does before (after.newSrtpKey next).2.2 call pending added := by
  rcases after.newSrtpKey_snd next with same | drawn
  · rw [same]
    exact does
  · rw [drawn]
    exact does.drawn

theorem authorizationFor (does : Does before after call pending added) (challenge : Message)
    (method uri : Bytes) :
    Does before (after.authorizationFor challenge method uri).2 call pending added := by
  rcases after.authorizationFor_snd challenge method uri with same | drawn
  · rw [same]
    exact does
  · rw [drawn]
    exact does.drawn

theorem sendRaw (does : Does before after call pending added) (packet : Packet) :
    Does before (after.sendRaw packet) call pending (added ++ [.sendSip packet]) :=
  does.act rfl (Drives.refl.sendSip packet)

theorem respond (does : Does before after call pending added) (response : Response) :
    Does before (after.respond response) call pending (added ++ [.sendSip (.response response)]) :=
  does.sendRaw _

theorem ring (does : Does before after call pending added) (request : Message) (tag : Bytes)
    (offer : AudioDescription) :
    ∃ (id : Int32) (event : Event), event.kind = .callIncoming ∧ event.callId = id ∧
      Does before (after.ring request tag offer)
        (some (incomingCall after.config id request tag offer)) pending
        (added ++ [.sendSip (.response { request, status := 180, toTag := tag })] ++
          [.begin false id (request.headerOr "call-id")] ++ [.emit event]) := by
  have allocated : Does before after.allocateCallId.2 call pending added :=
    { does with host := does.host.allocate }
  let next := incomingCall after.config after.allocateCallId.1 request tag offer
  let event : Event :=
    { kind := .callIncoming
      callId := after.allocateCallId.1
      remote := next.remoteUri
      remoteDisplayName := next.remoteDisplayName
      correlationId := next.correlationId }
  have rung := ((allocated.respond { request, status := 180, toTag := tag }).beginCall next).emit
    event
  exact ⟨after.allocateCallId.1, event, rfl, rfl, rung⟩

theorem openMedia (does : Does before after call pending added) :
    Does before after.openMedia.2 call pending (added ++ [.openMedia after.openMedia.1]) :=
  does.act rfl Drives.refl.openMedia

theorem startMedia (does : Does before after call pending added) (remote : RemoteMedia) :
    Does before (after.startMedia remote).2 call pending
      (added ++ [.startMedia remote (after.startMedia remote).1]) :=
  does.act rfl (Drives.refl.startMedia remote)

theorem closeMedia (does : Does before after call pending added) :
    Does before after.closeMedia call pending (added ++ [.closeMedia]) :=
  does.act rfl Drives.refl.closeMedia

theorem endCall {call : Call} (does : Does before after (some call) pending added)
    (reason : EndReason) (status : Int) :
    Does before (after.endCall reason status) none pending
      (added ++ call.farewell reason status) := by
  unfold UserAgent.endCall Call.farewell
  rw [does.current]
  dsimp only
  cases call.mediaOpen with
  | true =>
    have ended : Does before { after.closeMedia with current := none } none pending
        (added ++ [.closeMedia]) := { does.closeMedia with current := rfl }
    rw [if_pos rfl, ← List.append_assoc]
    exact ended.emit _
  | false =>
    have ended : Does before { after with current := none } none pending added :=
      { does with current := rfl }
    exact ended.emit _

/-- A transaction is started. -/
theorem startTransaction (does : Does before after call pending added) (request : Request)
    (branch : Bytes) (now : Time) (onFinal : FinalHandler) (onProvisional : Option Int32)
    (fits : onFinal.Fits request branch onProvisional) :
    ∃ transaction : Transaction, transaction.Begun request branch onFinal ∧
      Does before (after.startTransaction request branch now onFinal onProvisional fits) call
        (pending.put transaction) (added ++ [.sendSip transaction.packet]) := by
  let transaction : Transaction :=
    { request
      branch
      retransmitting := !after.config.reliable
      interval := kT1
      retransmitAt := now + kT1
      deadline := now + kTransactionTimeout
      onProvisional
      onFinal
      fits }
  refine ⟨transaction, ⟨rfl, rfl, rfl, rfl⟩, ?_⟩
  exact { does.sendRaw transaction.packet with
    transactions := congrArg (OrderedMap.put · transaction) does.transactions }

theorem sendRequest (does : Does before after call pending added) (request : Request) (now : Time)
    (branch : Bytes)
    (fits : ∀ used, branch = [] ∨ used = branch → FinalHandler.ignore.Fits request used none) :
    ∃ (transaction : Transaction) (used : Bytes), transaction.Begun request used .ignore ∧
      (branch = [] → Fresh before (after.sendRequest request now .ignore none branch fits) used) ∧
      (branch ≠ [] → used = branch) ∧
      Does before (after.sendRequest request now .ignore none branch fits) call
        (pending.put transaction) (added ++ [.sendSip transaction.packet]) := by
  unfold UserAgent.sendRequest
  split
  next missing =>
    obtain ⟨transaction, begun, sent⟩ :=
      does.drawn.startTransaction request after.freshBranch now .ignore none
        (fits _ (Or.inl missing))
    refine ⟨transaction, _, begun, fun _ => ?_, fun named => absurd missing named, sent⟩
    exact ⟨after.draws, ⟨does.draws, Nat.lt_succ_self _⟩, does.random ▸ rfl⟩
  next named =>
    obtain ⟨transaction, begun, sent⟩ :=
      does.startTransaction request branch now .ignore none (fits _ (Or.inr rfl))
    exact ⟨transaction, branch, begun, fun missing => absurd missing named, fun _ => rfl, sent⟩

theorem sendBye (does : Does before after call pending added) (next : Call) (now : Time) :
    ∃ (bye : Transaction) (branch : Bytes), bye.Begun (byeRequest next) branch .ignore ∧
      Fresh before (after.sendBye next now) branch ∧
      Does before (after.sendBye next now) (some { next with localCseq := next.localCseq + 1 })
        (pending.put bye) (added ++ [.sendSip bye.packet]) := by
  obtain ⟨bye, branch, begun, drawn, -, sent⟩ :=
    (does.setCall { next with localCseq := next.localCseq + 1 }).sendRequest (byeRequest next) now
      [] fun _ _ => ⟨Or.inl rfl, rfl, rfl⟩
  exact ⟨bye, branch, begun, drawn rfl, sent⟩

theorem sendCancel (does : Does before after call pending added) (next : Call) (now : Time) :
    ∃ (cancel : Transaction) (branch : Bytes),
      cancel.Begun (cancelRequest next) branch .ignore ∧
      (next.inviteBranch ≠ [] → branch = next.inviteBranch) ∧
      (next.inviteBranch = [] → Fresh before (after.sendCancel next now) branch) ∧
      Does before (after.sendCancel next now) (some { next with cancelSent := true })
        (pending.put cancel) (added ++ [.sendSip cancel.packet]) := by
  obtain ⟨cancel, branch, begun, drawn, named, sent⟩ :=
    (does.setCall { next with cancelSent := true }).sendRequest (cancelRequest next) now
      next.inviteBranch fun _ _ => ⟨Or.inr rfl, rfl, rfl⟩
  exact ⟨cancel, branch, begun, named, drawn, sent⟩

theorem sendInvite (does : Does before after call pending added) (next : Call)
    (authorization : Bytes) (now : Time) :
    ∃ invite : Transaction,
      invite.Begun (inviteRequest next authorization) (after.random.branch after.draws)
        (.invite (inviteContext next (after.random.branch after.draws))) ∧
      after.draws < (after.sendInvite next authorization now).draws ∧
      Does before (after.sendInvite next authorization now)
        (some (next.invited (after.random.branch after.draws))) (pending.put invite)
        (added ++ [.sendSip invite.packet]) := by
  rw [sendInvite_eq]
  refine ⟨after.inviteTransaction next authorization now, ⟨rfl, rfl, rfl, rfl⟩,
    Nat.lt_succ_self _, ?_⟩
  exact { does.drawn.sendRaw (after.inviteTransaction next authorization now).packet with
    current := rfl
    transactions := congrArg (OrderedMap.put · _) does.transactions }

/-- The answer to this side's INVITE is used, or the call is ended at once. -/
theorem followAnswer (does : Does before after call pending added) (next : Call)
    (response : Message) (now : Time) :
    (∃ answer key, before.config.usableAnswer response.body = some (answer, key) ∧
      ∃ event : Event, event.kind = .callAnswered ∧ event.callId = next.id ∧
        Does before (after.followAnswer next response now) (some next) pending
          (added ++ [.startMedia (before.config.remoteMediaFor next answer key) true] ++
            [.emit event])) ∨
      ∃ (media : List Action) (bye : Transaction) (branch : Bytes) (reason : EndReason)
        (status : Int), (media = [] ∨ ∃ answer key,
          before.config.usableAnswer response.body = some (answer, key) ∧
            media = [.startMedia (before.config.remoteMediaFor next answer key) false]) ∧
        bye.Begun (byeRequest next) branch .ignore ∧
        Fresh before (after.followAnswer next response now) branch ∧
        Does before (after.followAnswer next response now) none (pending.put bye)
          (added ++ media ++ [.sendSip bye.packet] ++ next.farewell reason status) := by
  unfold UserAgent.followAnswer
  rw [does.config]
  split
  · obtain ⟨bye, branch, begun, drawn, sent⟩ := does.sendBye next now
    refine Or.inr ⟨[], bye, branch, .mediaFailed, 488, Or.inl rfl, begun, drawn.endCall _ _, ?_⟩
    rw [List.append_nil]
    exact sent.endCall _ _
  next answer key usable =>
    have begun := (does.setCall next).startMedia (before.config.remoteMediaFor next answer key)
    dsimp only
    split
    next started =>
      rw [started] at begun
      exact Or.inl ⟨answer, key, usable, _, rfl, rfl, begun.emit _⟩
    next refused =>
      rw [Bool.eq_false_iff.mpr refused] at begun
      obtain ⟨bye, branch, fresh, drawn, sent⟩ := begun.sendBye next now
      exact Or.inr ⟨_, bye, branch, _, _, Or.inr ⟨answer, key, usable, rfl⟩, fresh,
        drawn.endCall _ _, sent.endCall _ _⟩

end Does

/-! ### Re-INVITEs -/

namespace UserAgent

/-- A usable re-INVITE starts media and is answered; when media starts, with this side's SDP. -/
theorem followReinvite_log (agent : UserAgent Host) (call : Call) {request : Message}
    {offer : AudioDescription} {key : Option SdesCrypto}
    (usable : parseAudio request.body = some offer)
    (chosen : agent.config.acceptable offer = some key) :
    ∃ started response, (agent.followReinvite call request).log = agent.log ++
        [.startMedia (agent.config.remoteMediaFor call offer key) started,
          .sendSip (.response response)] ∧
      response.request = request ∧ (started = true → response.status = 200 ∧
        (agent.config.srtp = true →
          agent.config.Describes (some offer) call.srtpKey response.body)) := by
  have nonempty : request.body ≠ [] := by
    intro empty
    rw [empty] at usable
    cases usable
  unfold followReinvite
  rw [if_neg nonempty, usable]
  simp only [chosen]
  split
  · split
    · exact ⟨_, _, append_assoc _ _ _, rfl, fun _ => ⟨rfl, fun _ => ⟨call, rfl, rfl⟩⟩⟩
    next refused => exact ⟨_, _, append_assoc _ _ _, rfl, fun started => absurd started refused⟩
  next plain =>
    split
    · exact ⟨_, _, append_assoc _ _ _, rfl, fun _ => ⟨rfl, fun secure => absurd secure plain⟩⟩
    next refused => exact ⟨_, _, append_assoc _ _ _, rfl, fun started => absurd started refused⟩

theorem step_reinvite (agent : UserAgent Host) {datagram : Bytes} {request : Message}
    {call : Call} (now : Time) (parsed : parseMessage datagram = some request)
    (isRequest : request.isResponse = false) (invite : request.method = ascii "INVITE")
    (addressed : wellAddressed request = true)
    (same : agent.sameCall request = some call)
    (inDialog : call.outgoing = true ∨ call.state = .confirmed) :
    agent.step (.message datagram now) = agent.followReinvite call request := by
  have settled : (!call.outgoing && decide (call.state ≠ .confirmed)) = false := by
    rcases inDialog with outgoing | confirmed
    · rw [outgoing, Bool.not_true, Bool.false_and]
    · rw [confirmed, decide_eq_false (fun apart => apart rfl), Bool.and_false]
  show agent.onMessage datagram now = _
  unfold onMessage onRequest onInviteRequest
  simp only [parsed, isRequest, addressed, invite, same, settled]
  rfl

end UserAgent

end KetPhone.Core
