/-
This file bounds what a server can make the user agent send by answering it. A
response to a REGISTER brings about at most one other, and that one is further on
its way: with credentials when it had none, or an unregistering one where it was
registering. A pending REGISTER is therefore worth at most three more. A challenge
of an INVITE is answered once, with credentials, and no message dials.
-/

import KetPhone.UserAgent.CallSteps
import KetPhone.UserAgent.Moves

namespace KetPhone.Core

open Sip List OrderedMap

variable {Host : Type}
variable {pending : OrderedMap Transaction.key} {transaction : Transaction} (agent : UserAgent Host)

/-- Whether a request of a method is sent. -/
def Action.requests (method : String) : Action → Bool
  | .sendSip packet => packet.method == some (ascii method)
  | _ => false

/-! ### REGISTERs -/

/-- How many REGISTERs the answers to a request can bring about, one after the other. -/
def Transaction.retries (transaction : Transaction) : Nat :=
  match transaction.onFinal with
  | .register expires authenticated =>
    (if expires = 0 then 0 else 2) + if authenticated then 0 else 1
  | _ => 0

theorem Transaction.retries_le (transaction : Transaction) :
    transaction.retries ≤ if transaction.onFinal.isRegister then 3 else 0 := by
  unfold retries FinalHandler.isRegister
  cases transaction.onFinal with
  | register expires authenticated =>
    rw [if_pos rfl]
    dsimp only
    split <;> split <;> omega
  | invite context => exact Nat.le_refl 0
  | ignore => exact Nat.le_refl 0

theorem Transaction.retries_of_not_isRegister (call : transaction.onFinal.isRegister = false) :
    transaction.retries = 0 := by
  have bound := transaction.retries_le
  rw [call] at bound
  exact Nat.le_zero.mp bound

@[simp]
theorem Transaction.retries_proceed (transaction : Transaction) (now : Time) :
    (transaction.proceed now).retries = transaction.retries := by
  unfold retries
  rw [proceed_onFinal]

theorem sum_retries_eq (transactions : OrderedMap Transaction.key) :
    transactions.sum Transaction.retries =
      ((transactions.values.filter fun transaction => transaction.onFinal.isRegister).map
        Transaction.retries).sum := by
  unfold OrderedMap.sum
  induction transactions.values with
  | nil => rfl
  | cons transaction rest hypothesis =>
    rw [map_cons, sum_cons, hypothesis, filter_cons]
    cases register : transaction.onFinal.isRegister with
    | true => rfl
    | false =>
      rw [Transaction.retries_of_not_isRegister register, Nat.zero_add]
      rfl

theorem sum_retries_of_half {transactions others : OrderedMap Transaction.key}
    (same : half true transactions = half true others) :
    transactions.sum Transaction.retries = others.sum Transaction.retries := by
  have equal : (transactions.values.filter fun transaction => transaction.onFinal.isRegister).Perm
      (others.values.filter fun transaction => transaction.onFinal.isRegister) := by
    refine (perm_ext_iff_of_nodup (transactions.nodup_values.filter _)
      (others.nodup_values.filter _)).mpr fun transaction => ?_
    rw [mem_filter, mem_filter]
    constructor
    · rintro ⟨member, register⟩
      exact ⟨mem_values_of_half true same register member, register⟩
    · rintro ⟨member, register⟩
      exact ⟨mem_values_of_half true same.symm register member, register⟩
  rw [sum_retries_eq, sum_retries_eq]
  exact (equal.map _).sum_nat

namespace UserAgent

theorem answerChallenge_eq_some {agent : UserAgent Host} {response : Option Message}
    {authenticated : Bool} {line : Bytes}
    (answered : (agent.answerChallenge response authenticated).1 = some line) :
    authenticated = false ∧ line ≠ [] := by
  unfold answerChallenge at answered
  split at answered
  · cases answered
  · split at answered
    next challenge =>
      refine ⟨(Bool.not_eq_true' _).mp challenge.2, ?_⟩
      unfold authorizationFor at answered
      dsimp only at answered
      split at answered
      · cases answered
      · split at answered
        · cases answered
        · obtain ⟨value, -, rfl⟩ := Option.map_eq_some_iff.mp answered
          rw [append_assoc]
          refine append_ne_nil_of_left_ne_nil ?_ _
          split <;> decide
    · cases answered

/-- What the pending REGISTERs are worth. -/
def retries (agent : UserAgent Host) : Nat := agent.transactions.sum Transaction.retries

theorem retries_le :
    agent.retries ≤
      3 * agent.transactions.values.countP fun transaction => transaction.onFinal.isRegister := by
  unfold retries OrderedMap.sum
  induction agent.transactions.values with
  | nil => exact Nat.le_refl _
  | cons transaction rest hypothesis =>
    have worth := transaction.retries_le
    rw [map_cons, sum_cons, countP_cons, Nat.mul_add]
    refine (Nat.add_le_add worth hypothesis).trans ?_
    split <;> omega

variable [UserAgentHost Host]

/-- A REGISTER is paid for by its worth. -/
theorem sendRegister_spends {before after : UserAgent Host} {expires : UInt32}
    {authorization : Bytes} {worth : Nat} (log : after.log = before.log)
    (left : after.retries + worth ≤ before.retries)
    (cheaper : (if expires = 0 then 0 else 2) + (if authorization ≠ [] then 0 else 1) < worth)
    (now : Time) :
    ∃ added, (after.sendRegister expires authorization now).log = before.log ++ added ∧
      added.countP (Action.requests "REGISTER") +
        (after.sendRegister expires authorization now).retries ≤ before.retries := by
  let sent := after.registerTransaction expires authorization now
  have weight : sent.retries < worth := by
    refine lt_of_eq_of_lt ?_ cheaper
    show (if expires = 0 then 0 else 2) + (if decide (authorization ≠ []) = true then 0 else 1) = _
    simp only [decide_eq_true_eq]
  have one : [Action.sendSip sent.packet].countP (Action.requests "REGISTER") = 1 := by
    show [Action.sendSip sent.packet].countP _ = 1
    rw [countP_singleton, if_pos]
    exact (by decide : (some (ascii "REGISTER") == some (ascii "REGISTER")) = true)
  have erased := after.transactions.sum_erase_le Transaction.retries sent.key
  rw [sendRegister_eq, log]
  refine ⟨_, rfl, ?_⟩
  show _ + (after.transactions.put sent).sum Transaction.retries ≤ _
  rw [one, sum_put]
  unfold retries at left ⊢
  omega

/-- The end of a REGISTER pays for the one it brings about. -/
theorem onRegisterFinal_spends {agent : UserAgent Host} {expires : UInt32} {authenticated : Bool}
    (pending : transaction ∈ agent.transactions.values)
    (handler : transaction.onFinal = .register expires authenticated) (response : Option Message)
    (now : Time) :
    ∃ added, ((agent.without transaction).onRegisterFinal response expires authenticated now).log =
        agent.log ++ added ∧
      added.countP (Action.requests "REGISTER") +
        ((agent.without transaction).onRegisterFinal response expires authenticated now).retries ≤
          agent.retries := by
  have worth : transaction.retries =
      (if expires = 0 then 0 else 2) + if authenticated then 0 else 1 := by
    unfold Transaction.retries
    rw [handler]
  have whole : agent.retries = transaction.retries + (agent.without transaction).retries :=
    sum_erase Transaction.retries pending
  obtain ⟨draws, challenged⟩ :=
    (agent.without transaction).landed.answerChallenge_draws response authenticated
  have left : UserAgent.retries { (agent.without transaction).landed with draws } +
      transaction.retries ≤ agent.retries := by
    rw [whole, Nat.add_comm]
    exact Nat.le_refl _
  have silent : UserAgent.retries { (agent.without transaction).landed with draws } ≤
      agent.retries := le_trans (Nat.le_add_right _ _) left
  unfold onRegisterFinal
  dsimp only
  rw [challenged]
  split
  next line answered =>
    obtain ⟨unproven, challenged⟩ := answerChallenge_eq_some answered
    refine sendRegister_spends (by rfl) left ?_ now
    rw [worth, unproven, if_pos challenged]
    simp
  · split
    · exact ⟨[], (append_nil _).symm, (Nat.zero_add _).trans_le silent⟩
    next lasting =>
      split
      · split
        · refine sendRegister_spends (by rfl) left ?_ now
          rw [worth, if_neg lasting]
          cases authenticated <;> decide
        · exact ⟨[], (append_nil _).symm, (Nat.zero_add _).trans_le silent⟩
      · exact ⟨_, rfl, (Nat.zero_add _).trans_le silent⟩

/-- A message pays for the REGISTER it brings about. -/
theorem onMessage_spends (datagram : Bytes) (now : Time) :
    ∃ added, (agent.onMessage datagram now).log = agent.log ++ added ∧
      added.countP (Action.requests "REGISTER") + (agent.onMessage datagram now).retries ≤
        agent.retries := by
  rcases agent.onMessage_cases datagram now with leaves |
    ⟨_, transaction, answers, _, _, equal⟩ |
    ⟨response, transaction, expires, authenticated, answers, handler, _, equal⟩
  · obtain ⟨added, log, apart⟩ := leaves.log
    have unregistered : added.countP (Action.requests "REGISTER") = 0 := by
      rw [countP_eq_zero]
      intro action member requests
      match action with
      | .sendSip packet => exact apart _ member (beq_iff_eq.mp requests)
    refine ⟨added, log, ?_⟩
    rw [unregistered, Nat.zero_add]
    exact (sum_retries_of_half leaves.registers).le
  · rw [equal]
    refine ⟨[], (append_nil _).symm, ?_⟩
    have whole := sum_erase Transaction.retries answers.pending
    rw [countP_nil, Nat.zero_add]
    show (agent.transactions.put (transaction.proceed now)).sum Transaction.retries ≤ _
    rw [sum_put, Transaction.retries_proceed, Transaction.proceed_key]
    exact whole.ge
  · rw [equal]
    exact onRegisterFinal_spends answers.pending handler (some response) now

end UserAgent

/-! ### INVITEs -/

/-- The agent has an INVITE out that carried no credentials. -/
def UserAgent.Unproven (agent : UserAgent Host) : Prop :=
  ∃ call, agent.current = some call ∧ call.inviteBranch ≠ [] ∧ call.authenticated = false

instance (agent : UserAgent Host) : Decidable agent.Unproven :=
  decidable_of_iff (agent.current.any fun call => !call.inviteBranch.isEmpty && !call.authenticated)
    (by simp [UserAgent.Unproven, Option.any_eq_true])

/-- How many INVITEs the answers of a server can bring about. -/
def UserAgent.reinvites (agent : UserAgent Host) : Nat := if agent.Unproven then 1 else 0

section Silence

variable {added : List Action}

/-- Nothing of a list is an INVITE. -/
def Uninviting (added : List Action) : Prop := ∀ action ∈ added, action.requests "INVITE" = false

theorem Uninviting.nil : Uninviting [] := nofun

theorem Uninviting.cons {action : Action} (first : action.requests "INVITE" = false)
    (rest : Uninviting added) : Uninviting (action :: added) := by
  intro other member
  rcases mem_cons.mp member with rfl | member
  · exact first
  · exact rest other member

theorem Uninviting.append {more : List Action} (first : Uninviting added)
    (rest : Uninviting more) : Uninviting (added ++ more) :=
  fun action member => (mem_append.mp member).elim (first action) (rest action)

theorem Uninviting.farewell (call : Call) (reason : EndReason) (status : Int) :
    Uninviting (call.farewell reason status) := by
  unfold Call.farewell
  refine append ?_ (cons rfl nil)
  split
  · exact cons rfl nil
  · exact nil

theorem requests_response (response : Response) :
    (Action.sendSip (.response response)).requests "INVITE" = false := rfl

theorem requests_ack (ack : Ack) : (Action.sendSip ack.packet).requests "INVITE" = false := by
  show (some ack.request.method == _) = false
  rw [ack.isAck]
  decide

theorem requests_ackForFailure (context : InviteContext) (recipient : Bytes) :
    (Action.sendSip (.ackForFailure context recipient)).requests "INVITE" = false := by
  show (some (ascii "ACK") == _) = false
  decide

theorem Transaction.Begun.requests {request : Request} {branch : Bytes}
    (begun : transaction.Begun request branch .ignore) :
    (Action.sendSip transaction.packet).requests "INVITE" = false := by
  have fits := transaction.fits
  rw [begun.onFinal] at fits
  show (some transaction.request.method == _) = false
  rcases fits.1 with bye | cancel
  · rw [bye]
    decide
  · rw [cancel]
    decide

end Silence

/-- What a step does with INVITEs, unless it dials: it sends none, or the one with credentials. -/
inductive InviteStep (added : List Action) (before after : UserAgent Host) : Prop
  | quiet (silent : Uninviting added) (kept : after.Unproven → before.Unproven)
  | retry (unproven : before.Unproven) (proven : ¬ after.Unproven)
      (once : added.countP (Action.requests "INVITE") = 1)

namespace InviteStep

variable [UserAgentHost Host] {added : List Action} {before after : UserAgent Host}

theorem same {call next : Call} (does : Does before after (some next) pending added)
    (present : before.current = some call) (branch : next.inviteBranch = call.inviteBranch)
    (proven : next.authenticated = call.authenticated) (silent : Uninviting added) :
    InviteStep added before after := by
  refine .quiet silent ?_
  rintro ⟨_, current, sent, unproven⟩
  cases does.current.symm.trans current
  exact ⟨call, present, branch ▸ sent, proven ▸ unproven⟩

theorem keeps (does : Does before after before.current pending added) (silent : Uninviting added) :
    InviteStep added before after := by
  refine .quiet silent ?_
  rintro ⟨call, current, unproven⟩
  exact ⟨call, does.current.symm.trans current, unproven⟩

theorem gone (does : Does before after none pending added) (silent : Uninviting added) :
    InviteStep added before after := by
  refine .quiet silent ?_
  rintro ⟨call, current, -⟩
  exact nomatch does.current.symm.trans current

omit [UserAgentHost Host] in
theorem spends (step : InviteStep added before after) :
    added.countP (Action.requests "INVITE") + after.reinvites ≤ before.reinvites := by
  unfold UserAgent.reinvites
  cases step with
  | quiet silent kept =>
    have zero : added.countP (Action.requests "INVITE") = 0 := by
      rw [countP_eq_zero]
      intro action member
      rw [silent action member]
      decide
    rw [zero, Nat.zero_add]
    split
    next unproven => rw [if_pos (kept unproven)]
    · exact Nat.zero_le _
  | retry unproven proven once => rw [once, if_neg proven, if_pos unproven]

end InviteStep

section Steps

variable [UserAgentHost Host] {cause : Cause} {added : List Action} {before after : UserAgent Host}

theorem CallTurn.inviteStep (turn : CallTurn cause added before after)
    (idle : ∀ id sipCallId, Action.begin true id sipCallId ∉ added) :
    InviteStep added before after := by
  have media {media : List Action} (refused : media = [] ∨ ∃ remote started,
      media = [.startMedia remote started]) : Uninviting media := by
    rcases refused with rfl | ⟨remote, started, rfl⟩
    · exact .nil
    · exact .cons rfl .nil
  cases turn with
  | rests does => exact .keeps does .nil
  | replies _ does => exact .keeps does (.cons (requests_response _) .nil)
  | acknowledges _ _ does => exact .keeps does (.cons (requests_ack _) .nil)
  | proceeds _ _ _ does => exact .keeps does .nil
  | progresses _ _ present _ _ _ told does =>
    refine .same does present rfl rfl ?_
    rcases told with rfl | ⟨event, -, -, rfl⟩
    · exact .nil
    · exact .cons rfl .nil
  | cancelsLate _ _ present _ _ _ _ _ begun does =>
    exact .same does present rfl rfl (.cons begun.requests .nil)
  | concludes _ _ does => exact .keeps does .nil
  | forgets _ _ _ sent does =>
    refine .keeps does ?_
    rcases sent with rfl | ⟨recipient, rfl⟩
    · exact .nil
    · exact .cons (requests_ackForFailure _ _) .nil
  | parts _ _ _ _ _ begun does =>
    exact .keeps does (.cons (requests_ack _) (.cons begun.requests .nil))
  | fails _ _ _ sent does =>
    refine .gone does (.append ?_ (.farewell _ _ _))
    rcases sent with rfl | ⟨recipient, rfl⟩
    · exact .nil
    · exact .cons (requests_ackForFailure _ _) .nil
  | @retries _ _ transaction invite context call recipient line draw _ invites own unproven _ _
      begun does =>
    obtain ⟨present, -, branch⟩ := UserAgent.callOf_eq_some own
    have fits := transaction.fits
    rw [invites] at fits
    refine .retry ⟨call, present, branch ▸ fits.2.2.2.2.2.2.2, unproven⟩ ?_ ?_
    · rintro ⟨_, current, -, still⟩
      cases does.current.symm.trans current
      cases still
    · have own : (Action.sendSip invite.packet).requests "INVITE" = true := by
        rw [begun.packet]
        show (some (ascii "INVITE") == _) = true
        decide
      rw [countP_cons_of_neg (by rw [requests_ackForFailure]; decide),
        countP_cons_of_pos own, countP_nil]
  | connects _ _ _ own _ _ _ does =>
    exact .same does (UserAgent.callOf_eq_some own).1 rfl rfl
      (.cons (requests_ack _) (.cons rfl (.cons rfl .nil)))
  | drops _ _ _ _ _ refused begun does =>
    refine .gone does (.cons (requests_ack _) (.append (media ?_)
      (.cons begun.requests (.farewell _ _ _))))
    exact refused.imp_right fun ⟨remote, equal⟩ => ⟨remote, false, equal⟩
  | dialFails => exact absurd (mem_cons_of_mem _ mem_cons_self) (idle _ _)
  | dials => exact absurd (mem_cons_of_mem _ mem_cons_self) (idle _ _)
  | rings _ _ _ does =>
    refine .quiet (.cons (requests_response _) (.cons rfl (.cons rfl .nil))) ?_
    rintro ⟨_, current, sent, -⟩
    cases does.current.symm.trans current
    exact absurd rfl sent
  | reinvites _ same _ does =>
    exact .same does (UserAgent.sameCall_eq_some same).1 rfl rfl
      (.cons rfl (.cons (requests_response _) .nil))
  | confirms present _ _ _ does => exact .same does present rfl rfl (.cons rfl .nil)
  | hearsBye _ _ does => exact .gone does (.cons (requests_response _) (.farewell _ _ _))
  | hearsCancel _ _ _ _ does =>
    exact .gone does (.cons (requests_response _) (.cons (requests_response _) (.farewell _ _ _)))
  | rejects _ _ _ does => exact .gone does (.cons (requests_response _) (.farewell _ _ _))
  | answerFails _ _ _ refused does =>
    refine .gone does (.cons rfl (.append (media ?_)
      (.cons (requests_response _) (.farewell _ _ _))))
    exact refused.imp_right fun ⟨_, remote, equal⟩ => ⟨remote, false, equal⟩
  | accepts present _ _ _ does =>
    exact .same does present rfl rfl (.cons rfl (.cons rfl (.cons (requests_response _) .nil)))
  | resends present _ sent does =>
    refine .same does present rfl rfl ?_
    rcases sent with rfl | ⟨response, -, rfl⟩
    · exact .nil
    · exact .cons (requests_response _) .nil
  | givesUp present _ _ _ does => exact .same does present rfl rfl .nil
  | cancels present _ _ _ _ begun does =>
    exact .same does present rfl rfl (.cons begun.requests .nil)
  | abandons _ _ _ does => exact .gone does (.farewell _ _ _)
  | saysBye _ _ begun does => exact .gone does (.cons begun.requests (.farewell _ _ _))

/-- What a step that does not dial does with INVITEs. -/
theorem CallStep.inviteStep (step : CallStep cause added before after)
    (idle : ∀ id sipCallId, Action.begin true id sipCallId ∉ added) :
    InviteStep added before after := by
  cases step with
  | registers side log =>
    obtain ⟨grown, equal, concerns⟩ := side.frame.log
    cases append_cancel_left (log.symm.trans equal)
    refine .quiet (fun action member => ?_) ?_
    · match action with
      | .sendSip packet =>
        have register := (concerns _ member).1
        show (packet.method == _) = false
        rw [show packet.method = some (ascii "REGISTER") from register]
        decide
      | .openMedia _ | .startMedia _ _ | .closeMedia | .emit _ | .begin _ _ _ => rfl
    · rintro ⟨call, current, unproven⟩
      exact ⟨call, side.frame.current ▸ current, unproven⟩
  | calls turn => exact turn.inviteStep idle

end Steps

/-! ### Messages alone -/

namespace UserAgent

variable [UserAgentHost Host]

theorem onMessage_invites (datagram : Bytes) (now : Time) :
    ∃ added, (agent.onMessage datagram now).log = agent.log ++ added ∧
      InviteStep added agent (agent.onMessage datagram now) := by
  cases parsed : parseMessage datagram with
  | none =>
    refine ⟨[], ?_, ?_⟩ <;> unfold onMessage <;> rw [parsed]
    · exact (append_nil _).symm
    · exact .quiet .nil id
  | some heard =>
    obtain ⟨added, step⟩ := CallStep.onMessage agent parsed now
    have asked : agent.asked (.message datagram now) = added := by
      unfold UserAgent.asked
      exact (congrArg (List.drop agent.log.length) step.log).trans drop_left
    refine ⟨added, step.log, step.inviteStep fun id sipCallId => ?_⟩
    rw [← asked]
    exact agent.begins_of_not_call (.message datagram now) (fun _ _ _ => nofun) id sipCallId

/-- No server can drive the agent into a loop. Whatever messages come in, and however many of them,
they make it send at most three REGISTERs for each that was pending, and one INVITE. -/
theorem messages_bounded (agent : UserAgent Host) (messages : List (Bytes × Time)) :
    let after := run step agent (messages.map fun message => .message message.1 message.2)
    let sent := after.log.drop agent.log.length
    sent.countP (Action.requests "REGISTER") ≤
        3 * agent.transactions.values.countP (fun transaction =>
          transaction.method = ascii "REGISTER") ∧
      sent.countP (Action.requests "INVITE") ≤ 1 := by
  intro after sent
  have isMessage (op : Op)
      (member : op ∈ messages.map fun message => Op.message message.1 message.2) :
      ∃ datagram now, op = .message datagram now := by
    obtain ⟨message, -, rfl⟩ := mem_map.mp member
    exact ⟨_, _, rfl⟩
  obtain ⟨added, log, registers⟩ := run_spends step UserAgent.log
    (Action.requests "REGISTER") retries (fun state op member => by
      obtain ⟨datagram, now, rfl⟩ := isMessage op member
      exact state.onMessage_spends datagram now) agent
  obtain ⟨again, logAgain, invites⟩ := run_spends step UserAgent.log
    (Action.requests "INVITE") reinvites (fun state op member => by
      obtain ⟨datagram, now, rfl⟩ := isMessage op member
      obtain ⟨added, log, step⟩ := state.onMessage_invites datagram now
      exact ⟨added, log, step.spends⟩) agent
  have asked : sent = added := (congrArg (List.drop agent.log.length) log).trans drop_left
  have pending : agent.transactions.values.countP (fun transaction =>
      transaction.onFinal.isRegister) = agent.transactions.values.countP fun transaction =>
        transaction.method = ascii "REGISTER" := by
    refine countP_congr fun transaction _ => ?_
    rw [decide_eq_true_iff]
    exact ⟨Transaction.method_of_isRegister, Transaction.isRegister_of_method⟩
  have most : agent.reinvites ≤ 1 := by
    unfold reinvites
    split <;> omega
  cases append_cancel_left (log.symm.trans logAgain)
  rw [asked, ← pending]
  exact ⟨(Nat.le_add_right _ _).trans (registers.trans agent.retries_le),
    (Nat.le_add_right _ _).trans (invites.trans most)⟩

end UserAgent

end KetPhone.Core
