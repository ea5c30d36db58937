/-
This file asks whether a lost ACK of a refused INVITE is repaired. `on_response` erases
the transaction before it runs the handler that acknowledges, and what the transaction
knew is kept nowhere else. So the first copy of a refusal is acknowledged whatever
became of the call, and no later copy is.
-/

import KetPhone.UserAgent.Acknowledging
import KetPhone.UserAgent.CallSteps

namespace KetPhone.Core

open Sip List

variable {Host : Type}

/-- An ACK of the refusal of an INVITE. It goes out on the INVITE's branch, with its CSeq number
and the To of the refusal. -/
def Action.AcknowledgesRefusal (branch : Bytes) (cseq : UInt32) (recipient : Bytes) :
    Action → Prop
  | .sendSip (.ackForFailure context answered) =>
    context.branch = branch ∧ context.cseq = cseq ∧ answered = recipient
  | _ => False

/-- A datagram is a 300 to 699 whose branch and CSeq are those of an INVITE the agent sent. -/
structure UserAgent.RefusedBy (agent : UserAgent Host) (datagram : Bytes) (response : Message)
    (invite : Request) : Prop where
  parsed : parseMessage datagram = some response
  isResponse : response.isResponse = true
  refusal : 300 ≤ response.status ∧ response.status ≤ 699
  cseq : parseCseq (response.headerOr "cseq") = some ⟨invite.cseq, ascii "INVITE"⟩
  isInvite : invite.method = ascii "INVITE"
  sent : .sendSip (.request invite (branchOf response)) ∈ agent.log

/-- The INVITE waits for its final response on the branch. -/
def UserAgent.AwaitsFinal (agent : UserAgent Host) (branch : Bytes) (invite : Request) : Prop :=
  ∃ transaction ∈ agent.transactions.values, transaction.Invites branch ∧
    transaction.request.cseq = invite.cseq

instance (agent : UserAgent Host) (branch : Bytes) (invite : Request) :
    Decidable (agent.AwaitsFinal branch invite) :=
  inferInstanceAs (Decidable (∃ transaction ∈ agent.transactions.values, _ ∧ _))

variable [UserAgentHost Host]

/-- The operation acknowledges the refusal of the INVITE. -/
def UserAgent.AcknowledgesRefusal (agent : UserAgent Host) (op : Op) (response : Message)
    (invite : Request) : Prop :=
  ∃ action ∈ agent.asked op,
    action.AcknowledgesRefusal (branchOf response) invite.cseq (response.headerOr "to")

/-! ### The one ACK -/

/-- No ACK of a refusal. -/
def Action.Other (action : Action) : Prop :=
  ∀ context recipient, action ≠ .sendSip (.ackForFailure context recipient)

theorem Action.Other.not_acknowledges {action : Action} (other : action.Other) (branch : Bytes)
    (cseq : UInt32) (recipient : Bytes) : ¬ action.AcknowledgesRefusal branch cseq recipient := by
  match action with
  | .sendSip (.ackForFailure context answered) => exact absurd rfl (other context answered)
  | .sendSip (.request _ _) | .sendSip (.response _) | .emit _ | .startMedia _ _ | .openMedia _
  | .closeMedia | .begin _ _ _ => exact id

theorem Call.farewell_other (call : Call) (reason : EndReason) (status : Int) :
    ∀ action ∈ call.farewell reason status, action.Other := by
  intro action member context recipient
  unfold farewell at member
  rcases mem_append.mp member with closes | ends
  · split at closes
    · cases mem_singleton.mp closes
      exact nofun
    · cases closes
  · cases mem_singleton.mp ends
    exact nofun

/-- Behind the ACK of a refusal no other follows: the INVITE is sent again or the call ends. -/
theorem UserAgent.onInviteRefused_other (agent : UserAgent Host) (context : InviteContext)
    (response : Message) (now : Time) :
    Grows Action.Other agent.log (agent.onInviteRefused context response now).log := by
  unfold onInviteRefused
  split
  · exact .refl _
  next call own =>
    have same := Does.refl agent
    rw [(callOf_eq_some own).1] at same
    have challenged := same.authorizationFor response (ascii "INVITE") call.inviteUri
    have ends {later : UserAgent Host} (does : Does agent later (some call) agent.transactions [])
        (reason : EndReason) :
        Grows Action.Other agent.log (later.endCall reason response.status).log :=
      ⟨_, (does.endCall reason response.status).log, call.farewell_other reason response.status⟩
    by_cases challenge : (response.status = 401 ∨ response.status = 407) ∧
        !call.authenticated ∧ !call.cancelRequested
    · rw [if_pos challenge]
      dsimp only
      split
      next line _ =>
        obtain ⟨invite, -, -, sent⟩ :=
          challenged.sendInvite { call with authenticated := true } line now
        rw [sent.log]
        exact .single _ nofun
      · exact ends challenged _
    · rw [if_neg challenge]
      exact ends same _

namespace UserAgent.RefusedBy

variable {agent : UserAgent Host} {datagram : Bytes} {response : Message} {invite : Request}

omit [UserAgentHost Host] in
theorem answers_iff (refused : agent.RefusedBy datagram response invite)
    {transaction : Transaction} :
    agent.Answers datagram response transaction ↔
      transaction ∈ agent.transactions.values ∧ transaction.Invites (branchOf response) :=
  answers_invite_iff refused.parsed refused.isResponse refused.cseq

theorem asked_of_none (refused : agent.RefusedBy datagram response invite)
    (unasked : ∀ transaction, ¬ agent.Answers datagram response transaction) (now : Time) :
    agent.asked (.message datagram now) = [] := by
  have failure : isSuccess response.status = false := by
    simp [isSuccess, Int.not_lt.mpr refused.refusal.1]
  have dropped : agent.step (.message datagram now) = agent := by
    show agent.onMessage datagram now = agent
    rw [agent.onMessage_unanswered refused.parsed unasked now, if_pos refused.isResponse,
      refused.cseq, Option.filter_some_neg (by simp [failure])]
  exact asked_of_log (by rw [dropped, append_nil])

/-- With one it is acknowledged first, and once. -/
theorem asked_of_answers (refused : agent.RefusedBy datagram response invite)
    {transaction : Transaction} (answers : agent.Answers datagram response transaction)
    {context : InviteContext} (handler : transaction.onFinal = .invite context) (now : Time) :
    ∃ rest, agent.asked (.message datagram now) =
        .sendSip (.ackForFailure context (response.headerOr "to")) :: rest ∧
      ∀ action ∈ rest, action.Other := by
  have final : 200 ≤ response.status := Int.le_trans (by decide) refused.refusal.1
  have refusing : agent.step (.message datagram now) =
      ((agent.without transaction).sendRaw
        (.ackForFailure context (response.headerOr "to"))).onInviteRefused
          context response now := by
    show agent.onMessage datagram now = _
    rw [agent.onMessage_final answers final now, handler]
    show onInviteFinal context (some response) now _ = _
    unfold onInviteFinal
    dsimp only
    rw [if_neg (Int.not_lt.mpr refused.refusal.1)]
  obtain ⟨rest, log, other⟩ := ((agent.without transaction).sendRaw
    (.ackForFailure context (response.headerOr "to"))).onInviteRefused_other context response now
  refine ⟨rest, asked_of_log ?_, other⟩
  rw [refusing, log]
  exact append_assoc _ _ _

theorem acknowledges_of_awaitsFinal (refused : agent.RefusedBy datagram response invite)
    (waits : agent.AwaitsFinal (branchOf response) invite) (now : Time) :
    agent.AcknowledgesRefusal (.message datagram now) response invite := by
  obtain ⟨transaction, pending, invites, same⟩ := waits
  obtain ⟨context, handler, -, cseq⟩ := Transaction.exists_invite invites.1
  have fits := transaction.fits
  rw [handler] at fits
  obtain ⟨rest, asked, -⟩ :=
    refused.asked_of_answers (refused.answers_iff.mpr ⟨pending, invites⟩) handler now
  refine ⟨.sendSip (.ackForFailure context (response.headerOr "to")), ?_,
    fits.2.1.symm.trans invites.2, cseq.trans same, rfl⟩
  rw [asked]
  exact mem_cons_self

theorem awaitsFinal_of_acknowledges (refused : agent.RefusedBy datagram response invite)
    {now : Time}
    (acknowledged : agent.AcknowledgesRefusal (.message datagram now) response invite) :
    agent.AwaitsFinal (branchOf response) invite := by
  obtain ⟨action, member, acknowledges⟩ := acknowledged
  by_cases waits : ∃ transaction, agent.Answers datagram response transaction
  · obtain ⟨transaction, answers⟩ := waits
    obtain ⟨pending, invites⟩ := refused.answers_iff.mp answers
    obtain ⟨context, handler, -, cseq⟩ := Transaction.exists_invite invites.1
    obtain ⟨rest, asked, other⟩ := refused.asked_of_answers answers handler now
    rw [asked] at member
    rcases mem_cons.mp member with rfl | late
    · exact ⟨transaction, pending, invites, cseq.symm.trans acknowledges.2.1⟩
    · exact absurd acknowledges ((other action late).not_acknowledges _ _ _)
  · rw [refused.asked_of_none (not_exists.mp waits) now] at member
    cases member

end UserAgent.RefusedBy

/-- In every state of a run a refusal of an INVITE of the agent is acknowledged exactly when that
INVITE still waits for its final response. -/
theorem refusal_acknowledged_iff (config : UserAgentConfig) (host : Host) (random : Random)
    (ops : List Op) (datagram : Bytes) (now : Time) (response : Message) (invite : Request)
    (refused : (run UserAgent.step (UserAgent.create config host random) ops).RefusedBy datagram
      response invite) :
    (run UserAgent.step (UserAgent.create config host random) ops).AcknowledgesRefusal
        (.message datagram now) response invite ↔
      (run UserAgent.step (UserAgent.create config host random) ops).AwaitsFinal
        (branchOf response) invite :=
  ⟨refused.awaitsFinal_of_acknowledges, fun waits => refused.acknowledges_of_awaitsFinal waits now⟩

/-! ### A call to a busy line -/

/-- A busy far end refuses the first INVITE of `UserAgent.ideal`. -/
def dialledBusy : Bytes := dialledAnswered "486 Busy Here" "" ""

/-- The first copy of the refusal is acknowledged. -/
theorem dialledBusy_acknowledged :
    (UserAgent.ideal.step (.call 1 (ascii "101") 0)).AcknowledgesRefusal (.message dialledBusy 1)
      ((parseMessage dialledBusy).getD {}) dialledInvite :=
  (refusal_acknowledged_iff _ _ _ [.call 1 (ascii "101") 0] dialledBusy 1
    ((parseMessage dialledBusy).getD {}) dialledInvite
    ⟨by decide +kernel, by decide +kernel, by decide +kernel, by decide +kernel, by decide +kernel,
      by decide +kernel⟩).mpr (by decide +kernel)

/-- An agent whose call was refused; the ACK it sent is lost. -/
def turnedAway : UserAgent IdealHost :=
  run UserAgent.step UserAgent.ideal [.call 1 (ascii "101") 0, .message dialledBusy 1]

/-- The far end repeats its refusal within a second and gets no answer. -/
theorem turnedAway_not_acknowledged :
    ∃ response, turnedAway.config.reliable = false ∧
      turnedAway.RefusedBy dialledBusy response dialledInvite ∧
      ¬ turnedAway.AcknowledgesRefusal
        (.message dialledBusy (seconds 1)) response dialledInvite := by
  have silent : turnedAway.asked (.message dialledBusy (seconds 1)) = [] := by decide +kernel
  refine ⟨(parseMessage dialledBusy).getD {}, by decide +kernel, ⟨by decide +kernel,
    by decide +kernel, by decide +kernel, by decide +kernel, by decide +kernel,
    by decide +kernel⟩, ?_⟩
  rintro ⟨action, member, -⟩
  rw [silent] at member
  cases member

end KetPhone.Core
