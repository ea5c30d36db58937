/-
This file asks whether every acceptance of an INVITE is acknowledged. The first
2xx finds the transaction of its INVITE and is acknowledged whatever became of the
call. A repeated one finds none; it is acknowledged from what the live call keeps,
so only while that call lives and keeps the ACK of the very INVITE. Once the
transaction has timed out or the call is over, a 2xx goes unanswered.
-/

import KetPhone.UserAgent.Conduct

namespace KetPhone.Core

open Sip List OrderedMap UserAgent

variable {Host : Type}
variable {transaction : Transaction}

/-- An ACK of the acceptance of an INVITE, which is a request of its own: its Call-ID and CSeq
number are the INVITE's. -/
def Packet.Acknowledges (packet : Packet) (invite : Request) : Prop :=
  match packet with
  | .request content _ => content.method = ascii "ACK" ∧ content.callId = invite.callId ∧
      content.cseq = invite.cseq
  | _ => False

/-- A datagram is a 2xx whose branch and CSeq are those of an INVITE the agent sent. -/
structure UserAgent.AcceptedBy (agent : UserAgent Host) (datagram : Bytes) (response : Message)
    (invite : Request) : Prop where
  parsed : parseMessage datagram = some response
  isResponse : response.isResponse = true
  success : UserAgent.isSuccess response.status = true
  cseq : parseCseq (response.headerOr "cseq") = some ⟨invite.cseq, ascii "INVITE"⟩
  isInvite : invite.method = ascii "INVITE"
  sent : .sendSip (.request invite (branchOf response)) ∈ agent.log

/-- An INVITE is pending on a branch. -/
def Transaction.Invites (transaction : Transaction) (branch : Bytes) : Prop :=
  transaction.method = ascii "INVITE" ∧ transaction.branch = branch

instance (transaction : Transaction) (branch : Bytes) : Decidable (transaction.Invites branch) :=
  inferInstanceAs (Decidable (_ ∧ _))

/-- The transaction of the INVITE has not ended. -/
def UserAgent.StillWaits (agent : UserAgent Host) (branch : Bytes) (invite : Request) : Prop :=
  ∃ transaction ∈ agent.transactions.values, transaction.Invites branch ∧
    transaction.request.callId = invite.callId ∧ transaction.request.cseq = invite.cseq

/-- No INVITE is pending on the branch, and the live call has the response's Call-ID and keeps the
ACK of the INVITE. -/
def UserAgent.KeepsAck (agent : UserAgent Host) (response : Message) (invite : Request) : Prop :=
  (∀ transaction ∈ agent.transactions.values, ¬ transaction.Invites (branchOf response)) ∧
    ∃ call ack, agent.sameCall response = some call ∧ call.ack = some ack ∧
      ack.packet.Acknowledges invite

/-! ### The transaction of an INVITE -/

theorem transactionKey_ne_invite (first second : Bytes) {method : Bytes} (start finish : Bytes)
    (parts : ascii " " ++ method = start ++ finish) (length : finish.length = 4)
    (differ : finish ≠ ascii "VITE") :
    transactionKey first method ≠ transactionKey second (ascii "INVITE") := by
  have invite : ascii " " ++ ascii "INVITE" = ascii " IN" ++ ascii "VITE" := by decide
  unfold transactionKey
  rw [append_assoc, append_assoc, parts, invite, ← append_assoc,
    ← append_assoc]
  intro same
  exact differ (append_inj' same length).2

/-- A key that ends in INVITE is the key of an INVITE. -/
theorem Transaction.of_inviteKey {branch : Bytes}
    (same : transaction.key = transactionKey branch (ascii "INVITE")) :
    transaction.method = ascii "INVITE" ∧ transaction.branch = branch := by
  have method : transaction.method = ascii "INVITE" := by
    unfold key at same
    cases side : transaction.onFinal.isRegister with
    | true =>
      rw [method_of_isRegister side] at same
      exact absurd same (transactionKey_ne_invite _ _ (ascii " REGI") (ascii "STER") (by decide)
        (by decide) (by decide))
    | false =>
      rcases method_of_not_isRegister side with invite | bye | cancel
      · exact invite
      · rw [bye] at same
        exact absurd same (transactionKey_ne_invite _ _ [] (ascii " BYE") (by decide) (by decide)
          (by decide))
      · rw [cancel] at same
        exact absurd same (transactionKey_ne_invite _ _ (ascii " CA") (ascii "NCEL") (by decide)
          (by decide) (by decide))
  refine ⟨method, ?_⟩
  unfold key at same
  rw [method] at same
  exact append_cancel_right (append_cancel_right same)

theorem Transaction.exists_invite (invite : transaction.method = ascii "INVITE") :
    ∃ context, transaction.onFinal = .invite context ∧
      context.sipCallId = transaction.request.callId ∧
      context.cseq = transaction.request.cseq := by
  have fits := transaction.fits
  match handler : transaction.onFinal with
  | .register _ _ =>
    rw [handler] at fits
    exact absurd (fits.1.symm.trans invite) register_ne_invite
  | .invite context =>
    rw [handler] at fits
    exact ⟨context, rfl, fits.2.2.2.2.1.symm, fits.2.2.2.2.2.1.symm⟩
  | .ignore =>
    rw [handler] at fits
    rcases fits.1 with method | method
    · exact absurd (method.symm.trans invite) (by decide)
    · exact absurd (method.symm.trans invite) (by decide)

/-- A response with an INVITE's CSeq method answers the INVITE that is pending on its branch. -/
theorem UserAgent.answers_invite_iff {agent : UserAgent Host} {datagram : Bytes}
    {response : Message} {cseq : UInt32} (parsed : parseMessage datagram = some response)
    (isResponse : response.isResponse = true)
    (numbered : parseCseq (response.headerOr "cseq") = some ⟨cseq, ascii "INVITE"⟩) :
    agent.Answers datagram response transaction ↔
      transaction ∈ agent.transactions.values ∧ transaction.Invites (branchOf response) := by
  have read : responseKey response =
      some (transactionKey (branchOf response) (ascii "INVITE")) := by
    unfold responseKey
    rw [numbered]
    rfl
  constructor
  · rintro ⟨-, -, key, known, found⟩
    rw [read, Option.some.injEq] at known
    obtain ⟨pending, keyed⟩ := find_eq_some_iff.mp found
    exact ⟨pending, Transaction.of_inviteKey (keyed.trans known.symm)⟩
  · rintro ⟨pending, method, branch⟩
    refine ⟨parsed, isResponse, _, read, ?_⟩
    rw [find_eq_some_iff]
    refine ⟨pending, ?_⟩
    unfold Transaction.key
    rw [method, branch]

namespace UserAgent.AcceptedBy

variable {agent : UserAgent Host} {datagram : Bytes} {response : Message} {invite : Request}

theorem answers_iff (accepted : agent.AcceptedBy datagram response invite) :
    agent.Answers datagram response transaction ↔
      transaction ∈ agent.transactions.values ∧ transaction.Invites (branchOf response) :=
  answers_invite_iff accepted.parsed accepted.isResponse accepted.cseq

end UserAgent.AcceptedBy

/-! ### What acknowledges -/

variable [UserAgentHost Host]

/-- The operation sends an ACK for the INVITE. -/
def UserAgent.Acknowledges (agent : UserAgent Host) (op : Op) (invite : Request) : Prop :=
  ∃ packet : Packet, .sendSip packet ∈ agent.asked op ∧ packet.Acknowledges invite

theorem Action.Free.not_acknowledges {packet : Packet} (free : Action.Free (.sendSip packet))
    (invite : Request) : ¬ packet.Acknowledges invite := by
  match packet with
  | .request content _ =>
    rintro ⟨ack, -⟩
    rcases free with (method | method | method) | register
    · exact absurd (ack.symm.trans method) (by decide)
    · exact absurd (ack.symm.trans method) (by decide)
    · exact absurd (ack.symm.trans method) (by decide)
    · exact absurd (ack.symm.trans (Option.some.inj register)) (by decide)
  | .response _ | .ackForFailure _ _ => exact id

namespace UserAgent.AcceptedBy

variable {agent : UserAgent Host} {datagram : Bytes} {response : Message} {invite : Request}

theorem acknowledges_of_stillWaits (accepted : agent.AcceptedBy datagram response invite)
    (waits : agent.StillWaits (branchOf response) invite) (now : Time) :
    agent.Acknowledges (.message datagram now) invite := by
  obtain ⟨transaction, pending, invites, sameCallId, sameCseq⟩ := waits
  have answers := accepted.answers_iff.mpr ⟨pending, invites⟩
  obtain ⟨context, handler, callId, cseq⟩ := Transaction.exists_invite invites.1
  have range : 200 ≤ response.status ∧ response.status < 300 := by
    simpa [isSuccess] using accepted.success
  have accepting : agent.step (.message datagram now) =
      (agent.without transaction).onInviteAccepted context response now := by
    show agent.onMessage datagram now = _
    rw [agent.onMessage_final answers range.1 now, handler]
    show onInviteFinal context (some response) now _ = _
    unfold onInviteFinal
    dsimp only
    rw [if_pos range.2]
  obtain ⟨added, turn, sent, -⟩ :=
    CallTurn.onInviteAccepted answers.heard accepted.success handler now
  rw [← accepting] at turn
  refine ⟨.request (ackRequest context response) agent.freshBranch, ?_, rfl,
    callId.trans sameCallId, cseq.trans sameCseq⟩
  rwa [asked_of_log (CallStep.calls turn).log]

theorem acknowledges_of_keepsAck (accepted : agent.AcceptedBy datagram response invite)
    (keeps : agent.KeepsAck response invite) (now : Time) :
    agent.Acknowledges (.message datagram now) invite := by
  obtain ⟨unasked, call, ack, same, kept, acknowledges⟩ := keeps
  have unanswered (transaction : Transaction) :
      ¬ agent.Answers datagram response transaction := fun answers =>
    unasked transaction (accepted.answers_iff.mp answers).1 (accepted.answers_iff.mp answers).2
  have stored : agent.step (.message datagram now) = agent.sendRaw ack.packet := by
    show agent.onMessage datagram now = _
    rw [agent.onMessage_unanswered accepted.parsed unanswered now, if_pos accepted.isResponse,
      accepted.cseq, Option.filter_some_pos (by simp [accepted.success]),
      Option.bind_eq_some_iff.mpr ⟨call, same, kept⟩]
  refine ⟨ack.packet, ?_, acknowledges⟩
  unfold asked
  rw [stored]
  show _ ∈ (agent.log ++ [Action.sendSip ack.packet]).drop agent.log.length
  rw [drop_left]
  exact mem_singleton_self _

/-- If an action acknowledges the INVITE, there is a reason. -/
def Explains (agent : UserAgent Host) (response : Message) (invite : Request) : Action → Prop
  | .sendSip packet => packet.Acknowledges invite →
      agent.StillWaits (branchOf response) invite ∨ agent.KeepsAck response invite
  | _ => True

omit [UserAgentHost Host] in
theorem explains_free (agent : UserAgent Host) (response : Message) (invite : Request)
    (action : Action) (free : action.Free) : Explains agent response invite action := by
  cases action with
  | sendSip packet => exact fun isAck => absurd isAck (free.not_acknowledges invite)
  | _ => exact trivial

omit [UserAgentHost Host] in
theorem permits (accepted : agent.AcceptedBy datagram response invite) (now : Time) :
    Permits (Explains agent response invite) agent (.message datagram now) := by
  refine ⟨⟨?_, ?_, fun _ _ _ _ _ _ _ _ _ _ _ _ => trivial⟩, fun request parsed isRequest => ?_⟩
  · rintro other transaction context branch answers handler - ⟨-, callId, cseq⟩
    cases accepted.parsed.symm.trans answers.1
    obtain ⟨pending, invites⟩ := accepted.answers_iff.mp answers
    obtain ⟨known, same, knownCallId, knownCseq⟩ := Transaction.exists_invite invites.1
    cases handler.symm.trans same
    exact Or.inl ⟨transaction, pending, invites, knownCallId.symm.trans callId,
      knownCseq.symm.trans cseq⟩
  · intro other call ack parsed unanswered same kept isAck
    cases accepted.parsed.symm.trans parsed
    exact Or.inr ⟨fun transaction pending invites =>
      unanswered transaction (accepted.answers_iff.mpr ⟨pending, invites⟩), call, ack, same, kept,
      isAck⟩
  · cases accepted.parsed.symm.trans parsed
    exact absurd accepted.isResponse (Bool.eq_false_iff.mp isRequest)

theorem waits_or_keeps_of_acknowledges (accepted : agent.AcceptedBy datagram response invite)
    {now : Time} (acknowledges : agent.Acknowledges (.message datagram now) invite) :
    agent.StillWaits (branchOf response) invite ∨ agent.KeepsAck response invite := by
  obtain ⟨packet, member, isAck⟩ := acknowledges
  exact asked_allowed (explains_free agent response invite) agent (.message datagram now)
    (accepted.permits now) member isAck

end UserAgent.AcceptedBy

/-- In every state of a run a 2xx to an INVITE of the agent is acknowledged exactly when the
transaction of that INVITE has not ended, or the live call keeps its ACK. -/
theorem acknowledges_iff (config : UserAgentConfig) (host : Host) (random : Random) (ops : List Op)
    (datagram : Bytes) (now : Time) (response : Message) (invite : Request)
    (accepted : (run UserAgent.step (UserAgent.create config host random) ops).AcceptedBy datagram
      response invite) :
    (run UserAgent.step (UserAgent.create config host random) ops).Acknowledges
        (.message datagram now) invite ↔
      (run UserAgent.step (UserAgent.create config host random) ops).StillWaits
          (branchOf response) invite ∨
        (run UserAgent.step (UserAgent.create config host random) ops).KeepsAck response invite :=
  ⟨accepted.waits_or_keeps_of_acknowledges, fun holds => holds.elim
    (fun waits => accepted.acknowledges_of_stillWaits waits now)
    fun keeps => accepted.acknowledges_of_keepsAck keeps now⟩

/-! ### A hung up call -/

/-- The first INVITE of `UserAgent.ideal` when it calls 101. -/
def dialledInvite : Request :=
  { method := ascii "INVITE"
    uri := ascii "sip:101@10.0.0.1"
    sender := ascii "<sip:100@10.0.0.1>;tag=3"
    recipient := ascii "<sip:101@10.0.0.1>"
    callId := ascii "2@ketphone"
    cseq := 1
    extra := [(ascii "Allow", kAllow)]
    body := buildAudioSdp (ascii "10.0.0.9") 4000 4 1 none }

/-- Its acceptance by the far end. -/
def dialledAccepted : Bytes :=
  dialledAnswered "200 OK" "Contact: <sip:101@10.0.0.1>\r\n"
    "v=0\r\nc=IN IP4 10.0.0.1\r\nm=audio 10000 RTP/AVP 8\r\n"

/-- The first copy of the acceptance is acknowledged. -/
theorem dialled_acknowledges :
    (UserAgent.ideal.step (.call 1 (ascii "101") 0)).Acknowledges (.message dialledAccepted 1)
      dialledInvite :=
  (acknowledges_iff _ _ _ [.call 1 (ascii "101") 0] dialledAccepted 1
    ((parseMessage dialledAccepted).getD {}) dialledInvite
    ⟨by decide +kernel, by decide +kernel, by decide +kernel, by decide +kernel, by decide +kernel,
      by decide +kernel⟩).mpr (Or.inl (by unfold UserAgent.StillWaits; decide +kernel))

/-- An agent that called, was accepted, acknowledged, and hung up. -/
def hungUp : UserAgent IdealHost :=
  run UserAgent.step UserAgent.ideal
    [.call 1 (ascii "101") 0, .message dialledAccepted 1, .hangup 1 2]

/-- The far end, which has not seen the ACK, repeats its acceptance and gets no answer. -/
theorem hungUp_not_acknowledges :
    ∃ response, hungUp.AcceptedBy dialledAccepted response dialledInvite ∧
      ¬ hungUp.Acknowledges (.message dialledAccepted 3) dialledInvite := by
  have silent : hungUp.asked (.message dialledAccepted 3) = [] := by decide +kernel
  refine ⟨(parseMessage dialledAccepted).getD {}, ⟨by decide +kernel, by decide +kernel,
    by decide +kernel, by decide +kernel, by decide +kernel, by decide +kernel⟩, ?_⟩
  rintro ⟨packet, member, -⟩
  rw [silent] at member
  exact absurd member not_mem_nil

end KetPhone.Core
