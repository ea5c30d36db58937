/-
This file follows the INVITEs that are given up. Hanging up a call that waits for
its answer sends a CANCEL at once if the far end has said that it is on it, and
otherwise when it says so; a shutdown ends the call there and then, and nobody is
left to send the CANCEL. So a given-up INVITE gets its one CANCEL exactly if no
provisional response comes for it after its call is gone.
-/

import KetPhone.UserAgent.Dialogs

namespace KetPhone.Core

open Sip List UserAgent

variable {Host : Type}
variable {before agent after : UserAgent Host} {branch : Bytes} {added past : List Action}
  {cause : Cause} {proceeded givenUp : Bytes → Prop} {op : Op}

/-! ### What becomes of an INVITE -/

/-- A provisional response to the INVITE on a branch was received while it was pending. -/
def Proceeded (history : List (UserAgent Host × Op)) (branch : Bytes) : Prop :=
  ∃ moment ∈ history, ∃ context response, moment.1.hears moment.2 = some (context, response) ∧
    response.status < 200 ∧ context.branch = branch

/-- A final response to the INVITE on a branch was handled. -/
def Resolved (history : List (UserAgent Host × Op)) (branch : Bytes) : Prop :=
  ∃ moment ∈ history, ∃ context response, moment.1.hears moment.2 = some (context, response) ∧
    200 ≤ response.status ∧ context.branch = branch

instance (history : List (UserAgent Host × Op)) (branch : Bytes) :
    Decidable (Proceeded history branch) :=
  decidable_of_iff (∃ moment ∈ history, (moment.1.hears moment.2).any (fun heard =>
      heard.2.status < 200 ∧ heard.1.branch = branch) = true) <| by
    simp [Proceeded, Option.any_eq_true]

instance (history : List (UserAgent Host × Op)) (branch : Bytes) :
    Decidable (Resolved history branch) :=
  decidable_of_iff (∃ moment ∈ history, (moment.1.hears moment.2).any (fun heard =>
      200 ≤ heard.2.status ∧ heard.1.branch = branch) = true) <| by
    simp [Resolved, Option.any_eq_true]

/-- An operation asks for the end of a call that waits for the answer to its INVITE. -/
def UserAgent.GivesUp (agent : UserAgent Host) (op : Op) (branch : Bytes) : Prop :=
  ∃ call, agent.current = some call ∧ call.state = .calling ∧ call.inviteBranch = branch ∧
    ((∃ now, op = .hangup call.id now) ∨ ∃ now, op = .shutdown now)

/-- The operations that ask for the end of a call. -/
def Op.asksEnd (id : Int32) : Op → Bool
  | .hangup other _ => other = id
  | .shutdown _ => true
  | _ => false

instance (agent : UserAgent Host) (op : Op) (branch : Bytes) :
    Decidable (agent.GivesUp op branch) :=
  decidable_of_iff (agent.current.any (fun call =>
      call.state = .calling ∧ call.inviteBranch = branch ∧ op.asksEnd call.id) = true) <| by
    cases op <;> simp [UserAgent.GivesUp, Op.asksEnd, Option.any_eq_true]

/-- The call of the INVITE on a branch was given up while it waited. -/
def GivenUp (history : List (UserAgent Host × Op)) (branch : Bytes) : Prop :=
  ∃ moment ∈ history, moment.1.GivesUp moment.2 branch

instance (history : List (UserAgent Host × Op)) (branch : Bytes) :
    Decidable (GivenUp history branch) :=
  inferInstanceAs (Decidable (∃ moment ∈ history, moment.1.GivesUp moment.2 branch))

/-- A CANCEL on a branch. -/
def Action.cancelOn (branch : Bytes) : Action → Option Request
  | .sendSip (.request request own) =>
    if request.method = ascii "CANCEL" ∧ own = branch then some request else none
  | _ => none

/-- The CANCELs on a branch. -/
def cancelsOn (branch : Bytes) (past : List Action) : List Request :=
  past.filterMap (Action.cancelOn branch)

/-- Each INVITE that was given up and for which a provisional response came has one CANCEL. -/
def Cancelled [UserAgentHost Host] (history : List (UserAgent Host × Op)) : Prop :=
  ∀ branch, GivenUp history branch → Proceeded history branch →
    (cancelsOn branch (acts history)).length = 1

/-- No provisional response comes for an INVITE that was given up, whose call is gone and that has
no CANCEL. -/
def Considerate [UserAgentHost Host] (recorded : List (UserAgent Host × Op) × UserAgent Host)
    (op : Op) : Prop :=
  ∀ context response, recorded.2.hears op = some (context, response) → response.status < 200 →
    GivenUp recorded.1 context.branch → recorded.2.callOf context = none →
      cancelsOn context.branch (acts recorded.1) ≠ []

/-! ### CANCELs of a history -/

theorem cancelsOn_append (branch : Bytes) (past added : List Action) :
    cancelsOn branch (past ++ added) = cancelsOn branch past ++ cancelsOn branch added :=
  filterMap_append

theorem cancelsOn_eq_nil (others : SendsOnly (· ≠ ascii "CANCEL") added) (branch : Bytes) :
    cancelsOn branch added = [] := by
  refine filterMap_eq_nil_iff.mpr fun action member => ?_
  match action with
  | .sendSip (.request request own) =>
    exact if_neg fun both => others request (mem_filterMap.mpr ⟨_, member, rfl⟩) both.1
  | .sendSip (.response _) => rfl
  | .sendSip (.ackForFailure _ _) => rfl
  | .openMedia _ => rfl
  | .startMedia _ _ => rfl
  | .closeMedia => rfl
  | .emit _ => rfl
  | .begin _ _ _ => rfl

theorem cancelsOn_own {request : Request} (cancel : request.method = ascii "CANCEL")
    (branch : Bytes) : cancelsOn branch [.sendSip (.request request branch)] = [request] :=
  filterMap_cons_some (if_pos ⟨cancel, rfl⟩)

theorem cancelsOn_other {own : Bytes} (apart : own ≠ branch) (request : Request) :
    cancelsOn branch [.sendSip (.request request own)] = [] :=
  filterMap_cons_none (if_neg fun both => apart both.2)

/-! ### Drawn branches -/

/-- A branch was drawn. -/
def UserAgent.Drew (agent : UserAgent Host) (branch : Bytes) : Prop :=
  ∃ draw < agent.draws, branch = agent.random.branch draw

theorem Random.Distinct.of_step [UserAgentHost Host]
    (distinct : (agent.step op).random.Distinct (agent.step op).draws) :
    agent.random.Distinct agent.draws := by
  obtain ⟨random, draws⟩ := agent.step_draws op
  rw [random] at distinct
  exact distinct.mono draws

theorem UserAgent.run_random [UserAgentHost Host] (agent : UserAgent Host) (ops : List Op) :
    (run UserAgent.step agent ops).random = agent.random :=
  loop_keeps (fun later : UserAgent Host => later.random = agent.random) ops
    (fun later op _ same => (later.step_draws op).1.trans same) rfl

theorem UserAgent.Drew.mono (drew : before.Drew branch) (random : after.random = before.random)
    (draws : before.draws ≤ after.draws) : after.Drew branch := by
  obtain ⟨draw, earlier, equal⟩ := drew
  exact ⟨draw, earlier.trans_le draws, random ▸ equal⟩

theorem UserAgent.not_drew {draw : Nat} (distinct : after.random.Distinct after.draws)
    (random : after.random = before.random) (drawn : before.draws ≤ draw ∧ draw < after.draws) :
    ¬ before.Drew (before.random.branch draw) := by
  rintro ⟨earlier, below, equal⟩
  rw [random] at distinct
  have same := distinct draw earlier drawn.2 (below.trans_le (drawn.1.trans drawn.2.le)) equal
  exact absurd below (same ▸ Nat.not_lt.mpr drawn.1)

/-! ### Waiting for an answer -/

/-- What a call that waits for the answer to its INVITE knows of it: the branch it went out on, the
CANCEL that would take it back, and how far things are. -/
structure Waiting where
  id : Int32
  branch : Bytes
  cancel : Request
  provisional : Bool
  cancelRequested : Bool
  cancelSent : Bool

def Call.waiting (call : Call) : Waiting :=
  { id := call.id
    branch := call.inviteBranch
    cancel := cancelRequest call
    provisional := call.provisional
    cancelRequested := call.cancelRequested
    cancelSent := call.cancelSent }

/-- The call that waits for an answer, if there is one. -/
def UserAgent.waiting (agent : UserAgent Host) : Option Waiting :=
  (agent.current.filter fun call => call.state = .calling).map Call.waiting

/-- A CANCEL has the headers of an INVITE. -/
def Suits (cancel invite : Request) : Prop :=
  cancel.uri = invite.uri ∧ cancel.sender = invite.sender ∧ cancel.recipient = invite.recipient ∧
    cancel.callId = invite.callId ∧ cancel.cseq = invite.cseq

theorem UserAgent.waiting_eq_some_iff {waiting : Waiting} :
    agent.waiting = some waiting ↔
      ∃ call, agent.current = some call ∧ call.state = .calling ∧ call.waiting = waiting := by
  unfold UserAgent.waiting
  rw [Option.map_eq_some_iff]
  simp only [Option.filter_eq_some_iff, decide_eq_true_iff, and_assoc]

theorem UserAgent.waiting_of_calling {call : Call} (present : agent.current = some call)
    (calling : call.state = .calling) : agent.waiting = some call.waiting :=
  waiting_eq_some_iff.mpr ⟨call, present, calling, rfl⟩

theorem UserAgent.Linked.awaits_of_waiting (linked : agent.Linked) {waiting : Waiting}
    (waits : agent.waiting = some waiting) :
    ∃ context recipient, Awaits agent.transactions context recipient ∧
      context.branch = waiting.branch ∧ context.callId = waiting.id := by
  obtain ⟨call, present, calling, rfl⟩ := waiting_eq_some_iff.mp waits
  exact ⟨_, _, linked.calling call present calling, rfl, rfl⟩

/-- The cause is a provisional response that is handed on to a call's id. -/
def UserAgent.Rings (agent : UserAgent Host) (cause : Cause) (id : Int32) : Prop :=
  ∃ response transaction, agent.Heard cause response transaction ∧ response.status < 200 ∧
    transaction.onProvisional = some id

/-- What a step means for a call that waits. -/
inductive WaitStep (cause : Cause) (added : List Action)
    (before after : UserAgent Host) : Prop
  | rests (silent : SendsOnly (· ≠ ascii "CANCEL") added)
      (fewer : ∀ context recipient, Awaits after.transactions context recipient →
        Awaits before.transactions context recipient)
      (waiting : ∀ waiting, after.waiting = some waiting → before.waiting = some waiting)
  | notes {waiting : Waiting} (silent : SendsOnly (· ≠ ascii "CANCEL") added)
      (fewer : ∀ context recipient, Awaits after.transactions context recipient →
        Awaits before.transactions context recipient)
      (waits : before.waiting = some waiting) (rings : before.Rings cause waiting.id)
      (settled : waiting.cancelRequested = true → waiting.cancelSent = true)
      (next : after.waiting = some { waiting with provisional := true })
  | asks {waiting : Waiting} (silent : SendsOnly (· ≠ ascii "CANCEL") added)
      (fewer : ∀ context recipient, Awaits after.transactions context recipient →
        Awaits before.transactions context recipient)
      (waits : before.waiting = some waiting) (unheard : waiting.provisional = false)
      (next : after.waiting = some { waiting with cancelRequested := true })
  | cancels {waiting : Waiting} (sent : added = [.sendSip (.request waiting.cancel waiting.branch)])
      (fewer : ∀ context recipient, Awaits after.transactions context recipient →
        Awaits before.transactions context recipient)
      (waits : before.waiting = some waiting)
      (due : waiting.provisional = true ∧ waiting.cancelRequested = false ∨
        before.Rings cause waiting.id ∧ waiting.cancelSent = false)
      (next : after.waiting = some { waiting with
        provisional := true
        cancelRequested := true
        cancelSent := true })
  | invites {waiting : Waiting} {draw : Nat} {invite : Request}
      (silent : SendsOnly (· ≠ ascii "CANCEL") added)
      (drawn : before.draws ≤ draw ∧ draw < after.draws)
      (branch : waiting.branch = before.random.branch draw)
      (fewer : ∀ context recipient, Awaits after.transactions context recipient →
        Awaits before.transactions context recipient ∨ context.branch = waiting.branch)
      (sent : .sendSip (.request invite waiting.branch) ∈ added)
      (method : invite.method = ascii "INVITE") (suits : Suits waiting.cancel invite)
      (unheard : waiting.provisional = false) (unasked : waiting.cancelRequested = false)
      (unsent : waiting.cancelSent = false ∨ ∃ old, before.waiting = some old ∧
        old.cancelRequested = false ∧ old.cancelSent = waiting.cancelSent)
      (next : after.waiting = some waiting)

variable [UserAgentHost Host]

/-- A call sends an INVITE. -/
theorem WaitStep.invited {pending : OrderedMap Transaction.key} {here : Call} {line : Bytes}
    {draw : Nat} {transaction : Transaction}
    (begun : transaction.Begun (inviteRequest here line) (before.random.branch draw)
      (.invite (inviteContext here (before.random.branch draw))))
    (does : Does before after (some (here.invited (before.random.branch draw)))
      (pending.put transaction) added) (drawn : before.draws ≤ draw ∧ draw < after.draws)
    (fewer : ∀ context recipient, Awaits pending context recipient →
      Awaits before.transactions context recipient) (silent : SendsOnly (· ≠ ascii "CANCEL") added)
    (sent : .sendSip transaction.packet ∈ added) (calling : here.state = .calling)
    (unasked : here.cancelRequested = false)
    (unsent : here.cancelSent = false ∨ ∃ old, before.waiting = some old ∧
      old.cancelRequested = false ∧ old.cancelSent = here.cancelSent) :
    WaitStep cause added before after := by
  have next := waiting_of_calling does.current calling
  rw [begun.packet] at sent
  refine .invites silent drawn ?_ (fun context recipient awaits => ?_) sent ?_ ?_ ?_ unasked unsent
    next
  · rfl
  · rw [does.transactions] at awaits
    rcases (Awaits.put_invite begun.onFinal).mp awaits with ⟨rfl, -⟩ | ⟨old, -⟩
    · exact Or.inr rfl
    · exact Or.inl (fewer context recipient old)
  · rfl
  · exact ⟨rfl, rfl, rfl, rfl, rfl⟩
  · rfl

theorem CallTurn.waitStep (turn : CallTurn cause added before after) (linked : before.Linked) :
    WaitStep cause added before after := by
  have fewer {transaction : Transaction} {context : InviteContext}
      (invites : transaction.onFinal = .invite context) (other : InviteContext) (recipient : Bytes)
      (awaits : Awaits (before.transactions.erase transaction.key) other recipient) :
      Awaits before.transactions other recipient := ((Awaits.erase_invite invites).mp awaits).1
  have bye {request : Request} (isBye : request.method = ascii "BYE") :
      request.method ≠ ascii "CANCEL" := by
    rw [isBye]
    decide
  have invite {here : Call} {line : Bytes} :
      (inviteRequest here line).method ≠ ascii "CANCEL" :=
    show ascii "INVITE" ≠ ascii "CANCEL" by decide
  have named {here : Call} (present : before.current = some here)
      (calling : here.state = .calling) :
      here.inviteBranch ≠ [] :=
    (linked.calling here present calling).branch_ne_nil
  -- the call stays as it is
  have rests {pending : OrderedMap Transaction.key}
      (does : Does before after before.current pending added)
      (silent : SendsOnly (· ≠ ascii "CANCEL") added)
      (fewer : ∀ context recipient, Awaits pending context recipient →
        Awaits before.transactions context recipient) : WaitStep cause added before after := by
    refine .rests silent (fun _ _ awaits => fewer _ _ (does.transactions ▸ awaits))
      fun waiting waits => ?_
    unfold UserAgent.waiting at waits
    rwa [does.current] at waits
  -- the call goes on waiting, or does not wait
  have keeps {here next : Call} {pending : OrderedMap Transaction.key}
      (does : Does before after (some next) pending added) (present : before.current = some here)
      (silent : SendsOnly (· ≠ ascii "CANCEL") added)
      (fewer : ∀ context recipient, Awaits pending context recipient →
        Awaits before.transactions context recipient)
      (same : next.state = .calling → here.state = .calling ∧ next.waiting = here.waiting) :
      WaitStep cause added before after := by
    refine .rests silent (fun _ _ awaits => fewer _ _ (does.transactions ▸ awaits))
      fun waiting waits => ?_
    obtain ⟨found, current, calling, rfl⟩ := waiting_eq_some_iff.mp waits
    cases does.current.symm.trans current
    obtain ⟨waited, alike⟩ := same calling
    exact alike ▸ waiting_of_calling present waited
  -- the call does not wait any more
  have settles {next : Call} {pending : OrderedMap Transaction.key}
      (does : Does before after (some next) pending added)
      (silent : SendsOnly (· ≠ ascii "CANCEL") added)
      (fewer : ∀ context recipient, Awaits pending context recipient →
        Awaits before.transactions context recipient)
      (lapsed : next.state ≠ .calling) : WaitStep cause added before after := by
    refine .rests silent (fun _ _ awaits => fewer _ _ (does.transactions ▸ awaits))
      fun waiting waits => ?_
    obtain ⟨found, current, calling, rfl⟩ := waiting_eq_some_iff.mp waits
    cases does.current.symm.trans current
    exact absurd calling lapsed
  -- the call ends
  have ends {pending : OrderedMap Transaction.key} (does : Does before after none pending added)
      (silent : SendsOnly (· ≠ ascii "CANCEL") added)
      (fewer : ∀ context recipient, Awaits pending context recipient →
        Awaits before.transactions context recipient) : WaitStep cause added before after := by
    refine .rests silent (fun _ _ awaits => fewer _ _ (does.transactions ▸ awaits))
      fun waiting waits => ?_
    obtain ⟨found, current, -⟩ := waiting_eq_some_iff.mp waits
    exact nomatch does.current.symm.trans current
  cases turn with
  | rests does => exact rests does (.of_silent rfl) fun _ _ => id
  | replies _ does => exact rests does (.of_silent rfl) fun _ _ => id
  | acknowledges _ _ does => exact rests does (.ack _ (by decide)) fun _ _ => id
  | proceeds heard _ _ does =>
    exact rests does (.of_silent rfl) fun _ _ => (Awaits.proceed heard.pending _).mp
  | progresses heard provisional present own calling settled told does =>
    refine .notes (.of_silent ?_) (fun _ _ awaits => ?_)
      (waiting_of_calling present calling) ⟨_, _, heard, provisional, own⟩ settled
      (waiting_of_calling does.current calling)
    · rcases told with rfl | ⟨_, _, _, rfl⟩ <;> rfl
    · rw [does.transactions] at awaits
      exact (Awaits.proceed heard.pending _).mp awaits
  | cancelsLate heard provisional present own calling requested unsent chosen begun does =>
    have next := waiting_of_calling does.current calling
    refine .cancels ?_ (fun _ _ awaits => ?_) (waiting_of_calling present calling)
      (Or.inr ⟨⟨_, _, heard, provisional, own⟩, unsent⟩) ?_
    · rw [begun.packet, chosen (named present calling)]
      rfl
    · rw [does.transactions] at awaits
      exact (Awaits.proceed heard.pending _).mp ((Awaits.put_ignored begun.onFinal).mp awaits)
    · rw [next]
      unfold Call.waiting
      rw [requested]
      rfl
  | concludes pending ignored does =>
    exact rests does (.of_silent rfl) fun _ _ => (Awaits.erase_ignored pending ignored).mp
  | forgets _ invites _ sent does =>
    refine rests does (.of_silent ?_) (fewer invites)
    rcases sent with rfl | ⟨_, rfl⟩ <;> rfl
  | parts _ _ invites _ _ begun does =>
    exact rests does (.append (.ack _ (by decide)) (.begun begun (bye rfl))) fun _ _ awaits =>
      fewer invites _ _ ((Awaits.put_ignored begun.onFinal).mp awaits)
  | fails _ invites _ acknowledged does =>
    refine ends does (.append (.of_silent ?_) (.farewell _ _ _)) (fewer invites)
    rcases acknowledged with rfl | ⟨_, rfl⟩ <;> rfl
  | retries pending invites own _ wanted drawn begun does =>
    obtain ⟨present, calling, -⟩ := linked.of_callOf pending invites own
    refine .invited begun does drawn (fewer invites) ?_
      (mem_cons_of_mem _ (mem_singleton_self _)) calling wanted
      (Or.inr ⟨_, waiting_of_calling present calling, wanted, rfl⟩)
    rw [← singleton_append]
    exact .append (.of_silent rfl) (.begun begun invite)
  | connects _ _ invites _ _ _ _ does =>
    exact settles does (.append (.ack _ (by decide)) (.of_silent rfl)) (fewer invites) nofun
  | @drops _ _ _ _ _ _ _ ack _ media _ _ _ _ invites _ _ refused begun does =>
    have acknowledged : SendsOnly (· ≠ ascii "CANCEL") (.sendSip ack.packet :: media) := by
      rw [← singleton_append]
      refine .append (.ack ack (by decide)) (.of_silent ?_)
      rcases refused with rfl | ⟨_, rfl⟩ <;> rfl
    exact ends does (acknowledged.append (.append (.begun begun (bye rfl)) (.farewell _ _ _)))
      fun _ _ awaits => fewer invites _ _ ((Awaits.put_ignored begun.onFinal).mp awaits)
  | dialFails _ _ _ does =>
    exact ends does (.of_silent (Call.farewell_sent _ _ _)) fun _ _ => id
  | @dials _ _ here port _ _ _ _ dialling drawn begun does =>
    have opened : SendsOnly (· ≠ ascii "CANCEL")
        [.openMedia port, .begin true here.id here.sipCallId] := .of_silent rfl
    exact .invited begun does drawn (fun _ _ => id) (opened.append (.begun begun invite))
      (mem_cons_of_mem _ (mem_cons_of_mem _ (mem_singleton_self _))) dialling.state
      dialling.cancelRequested (Or.inl dialling.cancelSent)
  | rings _ _ _ does =>
    exact settles does (.of_silent rfl) (fun _ _ => id) nofun
  | reinvites _ same _ does =>
    exact keeps does (sameCall_eq_some same).1 (.of_silent rfl) (fun _ _ => id)
      fun calling => ⟨calling, rfl⟩
  | confirms _ _ _ _ does =>
    exact settles does (.of_silent rfl) (fun _ _ => id) nofun
  | hearsBye _ _ does =>
    exact ends does (.of_silent (Call.farewell_sent _ _ _)) fun _ _ => id
  | hearsCancel _ _ _ _ does =>
    exact ends does (.of_silent (Call.farewell_sent _ _ _)) fun _ _ => id
  | rejects _ _ _ does =>
    exact ends does (.of_silent (Call.farewell_sent _ _ _)) fun _ _ => id
  | answerFails _ _ _ refused does =>
    refine ends does (.of_silent ?_) fun _ _ => id
    rcases refused with rfl | ⟨_, _, rfl⟩ <;>
      exact Call.farewell_sent _ _ _
  | accepts _ _ _ _ does =>
    exact settles does (.of_silent rfl) (fun _ _ => id) nofun
  | resends present _ sent does =>
    refine keeps does present (.of_silent ?_) (fun _ _ => id) fun calling => ⟨calling, rfl⟩
    rcases sent with rfl | ⟨_, _, rfl⟩ <;> rfl
  | givesUp present calling _ unheard does =>
    exact .asks (.of_silent rfl) (fun _ _ awaits => does.transactions ▸ awaits)
      (waiting_of_calling present calling) unheard
      (waiting_of_calling does.current calling)
  | cancels present calling first rang chosen begun does =>
    have next := waiting_of_calling does.current calling
    refine .cancels ?_ (fun _ _ awaits => ?_) (waiting_of_calling present calling)
      (Or.inl ⟨rang, first⟩) ?_
    · rw [begun.packet, chosen (named present calling)]
      rfl
    · rw [does.transactions] at awaits
      exact (Awaits.put_ignored begun.onFinal).mp awaits
    · rw [next]
      unfold Call.waiting
      rw [rang]
      rfl
  | abandons _ _ _ does => exact ends does (.farewell _ _ _) fun _ _ => id
  | saysBye _ _ begun does =>
    exact ends does (.append (.begun begun (bye rfl)) (.farewell _ _ _))
      fun _ _ => (Awaits.put_ignored begun.onFinal).mp

theorem CallStep.waitStep (step : CallStep cause added before after) (linked : before.Linked) :
    WaitStep cause added before after := by
  cases step with
  | registers side log =>
    refine .rests (.of_registers side log (by decide))
      (fun _ _ => (Awaits.half side.frame.calls).mp)
      fun waiting waits => ?_
    unfold UserAgent.waiting at waits
    rwa [side.frame.current] at waits
  | calls turn => exact turn.waitStep linked

/-! ### Chasing an INVITE -/

/-- The waiting call knows whether its INVITE proceeded and whether it was given up, and has sent
its CANCEL as soon as both hold. -/
structure Waiting.Chased (proceeded givenUp : Bytes → Prop) (past : List Action)
    (waiting : Waiting) : Prop where
  heard : proceeded waiting.branch → waiting.provisional = true
  wanted : givenUp waiting.branch → waiting.cancelRequested = true
  prompt : waiting.cancelRequested = true → waiting.provisional = true → waiting.cancelSent = true
  asked : waiting.cancelSent = true → waiting.cancelRequested = true
  counted : (cancelsOn waiting.branch past).length = if waiting.cancelSent then 1 else 0

/-- The CANCELs so far, with the INVITEs that proceeded and those that were given up. -/
structure Pursuit (proceeded givenUp : Bytes → Prop) (past : List Action)
    (agent : UserAgent Host) : Prop where
  pending : ∀ context recipient, Awaits agent.transactions context recipient →
    agent.Drew context.branch
  noted : ∀ branch, proceeded branch ∨ givenUp branch ∨ cancelsOn branch past ≠ [] →
    agent.Drew branch
  chased : ∀ waiting, agent.waiting = some waiting → waiting.Chased proceeded givenUp past
  once : ∀ branch, (cancelsOn branch past).length ≤ 1
  done : ∀ branch, givenUp branch → proceeded branch → (cancelsOn branch past).length = 1

namespace Pursuit

variable {proceeded givenUp : Bytes → Prop} {past added : List Action}
  {before after agent : UserAgent Host}
variable {waiting : Waiting}

omit [UserAgentHost Host]

theorem sent_of_both (pursuit : Pursuit proceeded givenUp past agent)
    (waits : agent.waiting = some waiting) (asked : waiting.cancelRequested = true)
    (heard : waiting.provisional = true) : (cancelsOn waiting.branch past).length = 1 := by
  have chased := pursuit.chased waiting waits
  rw [chased.counted, chased.prompt asked heard]
  rfl

/-- No CANCEL is sent. -/
theorem silent (pursuit : Pursuit proceeded givenUp past before)
    (silent : SendsOnly (· ≠ ascii "CANCEL") added) (random : after.random = before.random)
    (draws : before.draws ≤ after.draws)
    (pending : ∀ context recipient, Awaits after.transactions context recipient →
      after.Drew context.branch)
    (chased : ∀ waiting, after.waiting = some waiting → waiting.Chased proceeded givenUp past) :
    Pursuit proceeded givenUp (past ++ added) after := by
  have same (branch : Bytes) : cancelsOn branch (past ++ added) = cancelsOn branch past := by
    rw [cancelsOn_append, cancelsOn_eq_nil silent, append_nil]
  refine ⟨pending, fun branch known => ?_, fun waiting waits => ?_, fun branch => ?_,
    fun branch given rang => ?_⟩
  · rw [same] at known
    exact (pursuit.noted branch known).mono random draws
  · have known := chased waiting waits
    exact { known with counted := (same waiting.branch).symm ▸ known.counted }
  · rw [same]
    exact pursuit.once branch
  · rw [same]
    exact pursuit.done branch given rang

/-- The waiting call sends its CANCEL. -/
theorem cancels (pursuit : Pursuit proceeded givenUp past before) {next : Waiting}
    (random : after.random = before.random) (draws : before.draws ≤ after.draws)
    (pending : ∀ context recipient, Awaits after.transactions context recipient →
      after.Drew context.branch) (drew : before.Drew waiting.branch)
    (waits : before.waiting = some waiting) (unsent : waiting.cancelSent = false)
    (cancel : waiting.cancel.method = ascii "CANCEL") (later : after.waiting = some next)
    (branch : next.branch = waiting.branch) (heard : next.provisional = true)
    (asked : next.cancelRequested = true) (sent : next.cancelSent = true) :
    Pursuit proceeded givenUp
      (past ++ [.sendSip (.request waiting.cancel waiting.branch)]) after := by
  have uncancelled : cancelsOn waiting.branch past = [] := by
    have counted := (pursuit.chased waiting waits).counted
    rw [unsent] at counted
    exact length_eq_zero_iff.mp counted
  have own : cancelsOn waiting.branch
      (past ++ [.sendSip (.request waiting.cancel waiting.branch)]) = [waiting.cancel] := by
    rw [cancelsOn_append, uncancelled, cancelsOn_own cancel, nil_append]
  have other {branch : Bytes} (apart : branch ≠ waiting.branch) : cancelsOn branch
      (past ++ [.sendSip (.request waiting.cancel waiting.branch)]) = cancelsOn branch past := by
    rw [cancelsOn_append, cancelsOn_other apart.symm, append_nil]
  refine ⟨pending, fun name known => ?_, fun found here => ?_, fun name => ?_,
    fun name given rang => ?_⟩
  · by_cases mine : name = waiting.branch
    · exact mine ▸ drew.mono random draws
    · rw [other mine] at known
      exact (pursuit.noted name known).mono random draws
  · cases later.symm.trans here
    refine ⟨fun _ => heard, fun _ => asked, fun _ _ => sent, fun _ => asked, ?_⟩
    rw [branch, own, sent]
    rfl
  · by_cases mine : name = waiting.branch
    · rw [mine, own]
      exact le_rfl
    · rw [other mine]
      exact pursuit.once name
  · by_cases mine : name = waiting.branch
    · rw [mine, own]
      rfl
    · rw [other mine]
      exact pursuit.done name given rang

theorem proceeds (pursuit : Pursuit proceeded givenUp past agent) (drew : agent.Drew branch)
    (heard : ∀ waiting, agent.waiting = some waiting → waiting.branch = branch →
      waiting.provisional = true) (done : givenUp branch → (cancelsOn branch past).length = 1) :
    Pursuit (fun other => proceeded other ∨ other = branch) givenUp past agent where
  pending := pursuit.pending
  noted := by
    rintro other ((old | rfl) | known)
    · exact pursuit.noted other (Or.inl old)
    · exact drew
    · exact pursuit.noted other (Or.inr known)
  chased := fun waiting waits =>
    { pursuit.chased waiting waits with
      heard := fun rang => rang.elim (pursuit.chased waiting waits).heard (heard waiting waits) }
  once := pursuit.once
  done := by
    rintro other given (old | rfl)
    · exact pursuit.done other given old
    · exact done given

/-- An INVITE is given up. -/
theorem givesUp (pursuit : Pursuit proceeded givenUp past agent) (drew : agent.Drew waiting.branch)
    (waits : agent.waiting = some waiting) (asked : waiting.cancelRequested = true) :
    Pursuit proceeded (fun other => givenUp other ∨ other = waiting.branch) past agent where
  pending := pursuit.pending
  noted := by
    rintro other (old | (given | rfl) | known)
    · exact pursuit.noted other (Or.inl old)
    · exact pursuit.noted other (Or.inr (Or.inl given))
    · exact drew
    · exact pursuit.noted other (Or.inr (Or.inr known))
  chased := by
    intro found here
    cases waits.symm.trans here
    exact { pursuit.chased waiting waits with wanted := fun _ => asked }
  once := pursuit.once
  done := by
    rintro other (old | rfl) rang
    · exact pursuit.done other old rang
    · exact pursuit.sent_of_both waits asked ((pursuit.chased waiting waits).heard rang)

theorem congr (pursuit : Pursuit proceeded givenUp past agent) {others given : Bytes → Prop}
    (same : ∀ branch, others branch ↔ proceeded branch)
    (alike : ∀ branch, given branch ↔ givenUp branch) : Pursuit others given past agent := by
  obtain rfl : others = proceeded := funext fun branch => propext (same branch)
  obtain rfl : given = givenUp := funext fun branch => propext (alike branch)
  exact pursuit

end Pursuit

theorem Pursuit.retransmit (pursuit : Pursuit proceeded givenUp past agent) (now : Time) :
    Pursuit proceeded givenUp past (agent.retransmit now) := by
  obtain ⟨host, equal⟩ := agent.retransmit_eq now
  rw [equal]
  exact { pursuit with
    pending := fun context recipient awaits =>
      pursuit.pending context recipient ((Awaits.change now).mp awaits) }

theorem CallStep.pursuit (step : CallStep cause added before after) (linked : before.Linked)
    (distinct : after.random.Distinct after.draws)
    (pursuit : Pursuit proceeded givenUp past before) :
    Pursuit proceeded givenUp (past ++ added) after := by
  obtain ⟨random, draws⟩ := step.draws
  have old {context : InviteContext} {recipient : Bytes}
      (awaits : Awaits before.transactions context recipient) : after.Drew context.branch :=
    (pursuit.pending context recipient awaits).mono random draws
  have pending (fewer : ∀ context recipient, Awaits after.transactions context recipient →
      Awaits before.transactions context recipient) (context : InviteContext) (recipient : Bytes)
      (awaits : Awaits after.transactions context recipient) : after.Drew context.branch :=
    old (fewer context recipient awaits)
  cases step.waitStep linked with
  | rests silent fewer waiting =>
    exact pursuit.silent silent random draws (pending fewer) fun found waits =>
      pursuit.chased found (waiting found waits)
  | notes silent fewer waits _ settled next =>
    refine pursuit.silent silent random draws (pending fewer) fun found here => ?_
    cases next.symm.trans here
    exact { pursuit.chased _ waits with
      heard := fun _ => rfl
      prompt := fun asked _ => settled asked }
  | asks silent fewer waits unheard next =>
    refine pursuit.silent silent random draws (pending fewer) fun found here => ?_
    cases next.symm.trans here
    exact { pursuit.chased _ waits with
      wanted := fun _ => rfl
      prompt := fun _ heard => nomatch unheard.symm.trans heard
      asked := fun _ => rfl }
  | @cancels waiting sent fewer waits due next =>
    have chased := pursuit.chased waiting waits
    obtain ⟨context, recipient, awaits, branch, -⟩ := linked.awaits_of_waiting waits
    have unsent : waiting.cancelSent = false := by
      rcases due with ⟨-, unasked⟩ | ⟨-, unsent⟩
      · exact Bool.eq_false_iff.mpr fun sent => nomatch unasked.symm.trans (chased.asked sent)
      · exact unsent
    have method : waiting.cancel.method = ascii "CANCEL" := by
      obtain ⟨call, -, -, rfl⟩ := waiting_eq_some_iff.mp waits
      rfl
    rw [sent]
    exact pursuit.cancels random draws (pending fewer) (branch ▸ pursuit.pending _ _ awaits) waits
      unsent method next rfl rfl rfl rfl
  | @invites waiting draw invite silent drawn branch fewer _ _ _ unheard unasked unsent next =>
    have fresh (known : proceeded waiting.branch ∨ givenUp waiting.branch ∨
        cancelsOn waiting.branch past ≠ []) : False := by
      rw [branch] at known
      exact not_drew distinct random drawn (pursuit.noted _ known)
    have uncancelled : cancelsOn waiting.branch past = [] := by
      by_contra some
      exact fresh (Or.inr (Or.inr some))
    have unsent : waiting.cancelSent = false := by
      rcases unsent with unsent | ⟨earlier, waits, unasked, same⟩
      · exact unsent
      · refine Bool.eq_false_iff.mpr fun sent => ?_
        exact nomatch unasked.symm.trans ((pursuit.chased earlier waits).asked (same.trans sent))
    refine pursuit.silent silent random draws (fun context recipient awaits => ?_)
      fun found here => ?_
    · rcases fewer context recipient awaits with before | new
      · exact old before
      · exact ⟨draw, drawn.2, by rw [new, branch, random]⟩
    · cases next.symm.trans here
      refine ⟨fun rang => (fresh (Or.inl rang)).elim,
        fun given => (fresh (Or.inr (Or.inl given))).elim, fun asked => ?_, fun sent => ?_, ?_⟩
      · exact nomatch unasked.symm.trans asked
      · exact nomatch unsent.symm.trans sent
      · rw [uncancelled, unsent]
        rfl

theorem CallSteps.pursuit (steps : CallSteps cause added before after) (linked : before.Linked)
    (distinct : after.random.Distinct after.draws)
    (pursuit : Pursuit proceeded givenUp past before) :
    Pursuit proceeded givenUp (past ++ added) after := by
  have holds := steps.record (fun past agent => agent.Linked ∧
    (agent.random.Distinct agent.draws → Pursuit proceeded givenUp past agent)) ?_
      ⟨linked, fun _ => pursuit⟩
  · exact holds.2 distinct
  · rintro past added before after step ⟨linked, pursuit⟩
    refine ⟨step.linked linked, fun distinct => step.pursuit linked distinct (pursuit ?_)⟩
    obtain ⟨random, draws⟩ := step.draws
    rw [random] at distinct
    exact distinct.mono draws

/-! ### Operations -/

/-- A call that is given up has asked for its CANCEL, before it may end. -/
theorem CallSteps.hangup_givesUp {call : Call} (steps : CallSteps cause added before agent)
    (present : agent.current = some call) (calling : call.state = .calling) (now : Time) :
    ∃ early late middle next, CallSteps cause early before middle ∧
      CallSteps cause late middle (agent.hangup call.id now).2 ∧ middle.current = some next ∧
        next.state = .calling ∧ next.cancelRequested = true ∧
          next.inviteBranch = call.inviteBranch := by
  obtain ⟨added, next, given, current, waiting, asked, branch⟩ :
      ∃ added next, CallTurn cause added agent (agent.giveUp call now) ∧
        (agent.giveUp call now).current = some next ∧ next.state = .calling ∧
          next.cancelRequested = true ∧ next.inviteBranch = call.inviteBranch :=
    CallTurn.giveUp present calling now
  have found : agent.current.filter (fun other => other.id = call.id) = some call :=
    Option.filter_eq_some_iff.mpr ⟨present, decide_eq_true rfl⟩
  have handled : (agent.hangup call.id now).2 =
      if agent.shuttingDown then (agent.giveUp call now).endCall agent.ownReason 0
      else agent.giveUp call now := by
    unfold UserAgent.hangup
    rw [found]
    dsimp only
    rw [calling]
  have lapsed := Does.refl (agent.giveUp call now)
  rw [current] at lapsed
  rw [handled]
  split
  · exact ⟨_, _, _, next, steps.turns given,
      .single (.calls (.abandons current waiting asked (lapsed.endCall _ _))), current, waiting,
        asked, branch⟩
  · exact ⟨_, _, _, next, steps.turns given, .refl _, current, waiting, asked, branch⟩

theorem CallSteps.givesUp (gives : agent.GivesUp op branch) :
    ∃ early late middle next, CallSteps op.cause early agent middle ∧
      CallSteps op.cause late middle (agent.step op) ∧ middle.current = some next ∧
        next.state = .calling ∧ next.cancelRequested = true ∧ next.inviteBranch = branch := by
  obtain ⟨call, present, calling, rfl, ⟨now, rfl⟩ | ⟨now, rfl⟩⟩ := gives
  · exact CallSteps.hangup_givesUp (.refl agent) present calling now
  · have closing : CallStep .closes [] agent { agent with shuttingDown := true } :=
      .registers (RegisterSide.refl agent).close (append_nil _).symm
    obtain ⟨early, late, middle, next, first, second, facts⟩ :=
      CallSteps.hangup_givesUp (.single closing) present calling now
    obtain ⟨more, third⟩ := CallSteps.registers ⟨late, second⟩
      ((RegisterSide.refl _).stopRegistration now)
    have handled : agent.step (.shutdown now) =
        stopRegistration now (UserAgent.hangup call.id now
          { agent with shuttingDown := true }).2 := by
      show agent.shutdown now = _
      unfold UserAgent.shutdown
      dsimp only
      rw [present]
    exact ⟨early, more, middle, next, first, handled ▸ third, facts⟩

/-! ### Moments -/

section Moments

variable {history : List (UserAgent Host × Op)} {agent : UserAgent Host} {op : Op}

omit [UserAgentHost Host] in
theorem proceeded_concat :
    Proceeded (history ++ [(agent, op)]) branch ↔ Proceeded history branch ∨
      ∃ context response, agent.hears op = some (context, response) ∧ response.status < 200 ∧
        context.branch = branch := by
  unfold Proceeded
  simp only [mem_append, mem_singleton, or_and_right, exists_or, exists_eq_left]

omit [UserAgentHost Host] in
theorem resolved_concat :
    Resolved (history ++ [(agent, op)]) branch ↔ Resolved history branch ∨
      ∃ context response, agent.hears op = some (context, response) ∧ 200 ≤ response.status ∧
        context.branch = branch := by
  unfold Resolved
  simp only [mem_append, mem_singleton, or_and_right, exists_or, exists_eq_left]

omit [UserAgentHost Host] in
theorem givenUp_concat :
    GivenUp (history ++ [(agent, op)]) branch ↔
      GivenUp history branch ∨ agent.GivesUp op branch := by
  unfold GivenUp
  simp only [mem_append, mem_singleton, or_and_right, exists_or, exists_eq_left]

omit [UserAgentHost Host] in
theorem UserAgent.GivesUp.unique {other : Bytes} (gives : agent.GivesUp op branch)
    (also : agent.GivesUp op other) : other = branch := by
  obtain ⟨call, present, -, rfl, -⟩ := gives
  obtain ⟨found, here, -, rfl, -⟩ := also
  cases present.symm.trans here
  rfl

/-- A provisional response to an INVITE. -/
theorem Pursuit.rings
    (pursuit : Pursuit (Proceeded history) (GivenUp history) (acts history) agent)
    (linked : agent.Linked) {context : InviteContext} {response : Message}
    (hears : agent.hears op = some (context, response)) (provisional : response.status < 200)
    (distinct : (agent.step op).random.Distinct (agent.step op).draws)
    (considerate : Considerate (history, agent) op) :
    Pursuit (fun branch => Proceeded history branch ∨ branch = context.branch) (GivenUp history)
      (acts history ++ agent.started op) (agent.step op) := by
  obtain ⟨datagram, now, transaction, rfl, answers, invites⟩ :=
    hears_eq_some_iff.mp hears
  obtain ⟨added, turn, notes⟩ := CallTurn.onRinging answers provisional invites now
  have step := CallStep.calls turn
  have awaits := Awaits.of_pending answers.pending invites
  have pursued : Pursuit (Proceeded history) (GivenUp history) (acts history ++ added)
      (agent.step (.message datagram now)) := step.pursuit linked distinct pursuit
  rw [(CallSteps.single step).started]
  refine pursued.proceeds ?_ (fun waiting waits own => ?_) fun given => ?_
  · obtain ⟨random, draws⟩ := step.draws
    exact (pursuit.pending _ _ awaits).mono random draws
  · obtain ⟨found, here, calling, rfl⟩ := waiting_eq_some_iff.mp waits
    cases notes with
    | ours _ _ _ current _ _ noted =>
      cases current.symm.trans here
      exact noted
    | others apart current =>
      have present := current.symm.trans here
      have found := linked.callOf_of_branch present calling awaits own.symm
      exact absurd calling (apart _ present (callOf_eq_some found).2.1)
  · cases found : agent.callOf context with
    | none =>
      have before : 0 < (cancelsOn context.branch (acts history)).length :=
        length_pos_iff.mpr (considerate context response hears provisional given found)
      have after := pursued.once context.branch
      rw [cancelsOn_append, length_append] at after ⊢
      omega
    | some call =>
      obtain ⟨present, id, branch⟩ := callOf_eq_some found
      have calling := (linked.of_callOf answers.pending invites found).2.1
      cases notes with
      | @ours _ next here _ _ current waiting same noted =>
        cases present.symm.trans here
        have waits := waiting_of_calling current waiting
        have own : context.branch = next.waiting.branch := (same.trans branch).symm
        rw [own] at given ⊢
        exact pursued.sent_of_both waits ((pursued.chased _ waits).wanted given) noted
      | others apart => exact absurd calling (apart call present id)

/-- A call is given up. -/
theorem Pursuit.drops (pursuit : Pursuit (Proceeded history) (GivenUp history) (acts history) agent)
    (linked : agent.Linked) (gives : agent.GivesUp op branch)
    (distinct : (agent.step op).random.Distinct (agent.step op).draws) :
    Pursuit (Proceeded history) (fun other => GivenUp history other ∨ other = branch)
      (acts history ++ agent.started op) (agent.step op) := by
  obtain ⟨early, late, middle, next, first, second, current, waiting, asked, rfl⟩ :=
    CallSteps.givesUp gives
  have started : agent.started op = early ++ late := by
    obtain ⟨_, -, -, -, ⟨now, rfl⟩ | ⟨now, rfl⟩⟩ := gives <;>
      exact (first.trans second).started
  have distinctly : middle.random.Distinct middle.draws := by
    rw [second.draws.1] at distinct
    exact distinct.mono second.draws.2
  have pursued := first.pursuit linked distinctly pursuit
  have stillLinked := first.keep UserAgent.Linked (fun step linked => step.linked linked) linked
  have waits := waiting_of_calling current waiting
  have drew := pursued.pending _ _ (stillLinked.calling next current waiting)
  rw [started, ← append_assoc]
  exact second.pursuit stillLinked distinct (pursued.givesUp drew waits asked)

theorem Pursuit.others (pursuit : Pursuit proceeded givenUp past agent) (linked : agent.Linked)
    (op : Op) (distinct : (agent.step op).random.Distinct (agent.step op).draws) :
    Pursuit proceeded givenUp (past ++ agent.started op) (agent.step op) := by
  rcases CallSteps.step agent op with ⟨_, _, _, _, rfl, -, step⟩ | ⟨-, _, steps⟩
  · rw [(CallSteps.single step).started]
    exact step.pursuit linked distinct pursuit
  · let invariant (agent : UserAgent Host) : Prop :=
      agent.Linked ∧ Pursuit proceeded givenUp past agent
    have ready : invariant (agent.resending op) := resending_keeps invariant
      (fun _ now both => ⟨both.1.retransmit now, both.2.retransmit now⟩) ⟨linked, pursuit⟩ op
    rw [steps.started]
    exact steps.pursuit ready.1 distinct ready.2

theorem Pursuit.step
    (pursuit : Pursuit (Proceeded history) (GivenUp history) (acts history) agent)
    (linked : agent.Linked) (distinct : (agent.step op).random.Distinct (agent.step op).draws)
    (considerate : Considerate (history, agent) op) :
    Pursuit (Proceeded (history ++ [(agent, op)])) (GivenUp (history ++ [(agent, op)]))
      (acts (history ++ [(agent, op)])) (agent.step op) := by
  rw [acts_concat]
  by_cases ringing : ∃ context response, agent.hears op = some (context, response) ∧
      response.status < 200
  · obtain ⟨context, response, hears, provisional⟩ := ringing
    refine (pursuit.rings linked hears provisional distinct considerate).congr (fun branch => ?_)
      fun branch => ?_
    · rw [proceeded_concat]
      refine or_congr_right ⟨?_, fun same => ⟨context, response, hears, provisional, same.symm⟩⟩
      rintro ⟨_, _, again, -, rfl⟩
      cases hears.symm.trans again
      rfl
    · rw [givenUp_concat]
      refine or_iff_left ?_
      rintro ⟨_, -, -, -, ⟨now, rfl⟩ | ⟨now, rfl⟩⟩ <;> cases hears
  · have silent (branch : Bytes) :
        Proceeded (history ++ [(agent, op)]) branch ↔ Proceeded history branch := by
      rw [proceeded_concat]
      exact or_iff_left fun ⟨context, response, hears, provisional, _⟩ =>
        ringing ⟨context, response, hears, provisional⟩
    by_cases giving : ∃ branch, agent.GivesUp op branch
    · obtain ⟨branch, gives⟩ := giving
      refine (pursuit.drops linked gives distinct).congr silent fun other => ?_
      rw [givenUp_concat]
      exact or_congr_right ⟨gives.unique, fun same => same ▸ gives⟩
    · refine (pursuit.others linked op distinct).congr silent fun branch => ?_
      rw [givenUp_concat]
      exact or_iff_left fun gives => giving ⟨branch, gives⟩

theorem CallStep.waits_of_cancelsOn (step : CallStep cause added before after)
    (linked : before.Linked) (cancels : cancelsOn branch added ≠ []) :
    ∃ waiting, before.waiting = some waiting ∧ waiting.branch = branch := by
  cases step.waitStep linked with
  | rests silent => exact absurd (cancelsOn_eq_nil silent branch) cancels
  | notes silent => exact absurd (cancelsOn_eq_nil silent branch) cancels
  | asks silent => exact absurd (cancelsOn_eq_nil silent branch) cancels
  | invites silent => exact absurd (cancelsOn_eq_nil silent branch) cancels
  | @cancels waiting sent _ waits =>
    refine ⟨waiting, waits, ?_⟩
    by_contra apart
    rw [sent, cancelsOn_other apart] at cancels
    exact cancels rfl

/-- The one CANCEL of each INVITE that was given up and proceeded is there after an operation if and
only if the operation is considerate. -/
theorem Pursuit.cancelled_iff
    (pursuit : Pursuit (Proceeded history) (GivenUp history) (acts history) agent)
    (linked : agent.Linked) (distinct : (agent.step op).random.Distinct (agent.step op).draws) :
    Cancelled (history ++ [(agent, op)]) ↔ Considerate (history, agent) op := by
  constructor
  · intro cancelled context response hears provisional given gone uncancelled
    have one := cancelled context.branch (givenUp_concat.mpr (Or.inl given))
      (proceeded_concat.mpr (Or.inr ⟨context, response, hears, provisional, rfl⟩))
    obtain ⟨datagram, now, transaction, rfl, answers, invites⟩ :=
      hears_eq_some_iff.mp hears
    obtain ⟨added, turn, -⟩ := CallTurn.onRinging answers provisional invites now
    have step := CallStep.calls turn
    rw [acts_concat, (CallSteps.single step).started, cancelsOn_append, uncancelled,
      nil_append] at one
    obtain ⟨waiting, waits, own⟩ := step.waits_of_cancelsOn linked fun nothing => by
      rw [nothing] at one
      exact nomatch one
    obtain ⟨call, present, calling, rfl⟩ := waiting_eq_some_iff.mp waits
    have found := linked.callOf_of_branch present calling
      (Awaits.of_pending answers.pending invites) own.symm
    exact nomatch gone.symm.trans found
  · exact fun considerate => (pursuit.step linked distinct considerate).done

end Moments

/-! ### Whole runs -/

/-- After each operation of a run, the INVITEs that were given up and proceeded have their CANCEL.
-/
def CancelledThroughout (start : UserAgent Host) (ops : List Op) : Prop :=
  StepsMeet (recording UserAgent.step)
    (fun recorded op => Cancelled (recording UserAgent.step recorded op).1) ([], start) ops

omit [UserAgentHost Host] in
theorem Pursuit.create [UserAgentHost Host] (config : UserAgentConfig) (host : Host)
    (random : Random) :
    Pursuit (Proceeded ([] : List (UserAgent Host × Op)))
      (GivenUp ([] : List (UserAgent Host × Op)))
      [] (UserAgent.create config host random) where
  pending := fun _ _ ⟨_, pending, _⟩ => absurd pending not_mem_nil
  noted := by
    rintro branch (⟨_, member, _⟩ | ⟨_, member, _⟩ | unset)
    · exact nomatch member
    · exact nomatch member
    · exact absurd rfl unset
  chased := fun _ waits => nomatch waits
  once := fun _ => Nat.zero_le _
  done := fun _ ⟨_, member, _⟩ => nomatch member

/-- A given-up call is cancelled. In every run, while the branches drawn differ, each INVITE that
was given up has its one CANCEL from the moment on when a provisional response to it has come, if
and only if no such response comes to an INVITE that has neither its call nor its CANCEL any more.
-/
theorem cancelledThroughout_iff (config : UserAgentConfig) (host : Host) (random : Random)
    (ops : List Op)
    (distinct : random.Distinct
      (run UserAgent.step (UserAgent.create config host random) ops).draws) :
    CancelledThroughout (UserAgent.create config host random) ops ↔
      StepsMeet (recording UserAgent.step) Considerate
        ([], UserAgent.create config host random) ops := by
  let within (recorded : List (UserAgent Host × Op) × UserAgent Host) : Prop :=
    recorded.2.random.Distinct recorded.2.draws
  let invariant (recorded : List (UserAgent Host × Op) × UserAgent Host) : Prop :=
    recorded.2.Linked ∧
      Pursuit (Proceeded recorded.1) (GivenUp recorded.1) (acts recorded.1) recorded.2
  have back : ∀ recorded op, within (recording UserAgent.step recorded op) → within recorded :=
    fun _ _ distinct => Random.Distinct.of_step distinct
  have same : ∀ recorded op, within (recording UserAgent.step recorded op) → invariant recorded →
      (Cancelled (recording UserAgent.step recorded op).1 ↔ Considerate recorded op) :=
    fun recorded op distinct both => both.2.cancelled_iff both.1 distinct
  have kept : ∀ recorded op, within (recording UserAgent.step recorded op) → invariant recorded →
      Cancelled (recording UserAgent.step recorded op).1 →
        invariant (recording UserAgent.step recorded op) :=
    fun recorded op distinct both cancelled =>
      ⟨step_keeps (fun _ now linked => linked.retransmit now)
        (fun step linked => step.linked linked) both.1 op,
        both.2.step both.1 distinct ((same recorded op distinct both).mp cancelled)⟩
  refine stepsMeet_iff_within within invariant back kept same
    ⟨.of_idle rfl, Pursuit.create config host random⟩ ?_
  have last := run_recording_snd UserAgent.step ([], UserAgent.create config host random) ops
  have drawn := (UserAgent.create config host random).run_random ops
  show Random.Distinct (run (recording UserAgent.step) _ ops).2.random _
  rw [last, drawn]
  exact distinct

/-- The far end says that it is on the dialled INVITE. -/
def dialledRinging : Bytes := dialledAnswered "180 Ringing" "" ""

/-- A call that is hung up before the far end is on it, and cancelled when it is. -/
theorem hungUpEarly_cancelled :
    CancelledThroughout UserAgent.ideal
      [.call 1 (ascii "101") 0, .hangup 1 1, .message dialledRinging 2] := by
  have owned : ((run UserAgent.step UserAgent.ideal [.call 1 (ascii "101") 0, .hangup 1 1]).hears
      (.message dialledRinging 2)).all (fun heard => ((run UserAgent.step UserAgent.ideal
        [.call 1 (ascii "101") 0, .hangup 1 1]).callOf heard.1).isSome) = true := by
    decide +kernel
  refine (cancelledThroughout_iff _ _ _ _ (Random.counting_distinct _)).mpr
    ⟨fun _ _ hears => (nomatch hears), fun _ _ hears => (nomatch hears),
      fun context response hears _ _ gone => ?_, trivial⟩
  have heard : (run UserAgent.step UserAgent.ideal [.call 1 (ascii "101") 0, .hangup 1 1]).hears
      (.message dialledRinging 2) = some (context, response) := hears
  rw [heard, Option.all_some] at owned
  exact absurd gone (Option.isSome_iff_ne_none.mp owned)

theorem CancelledThroughout.last {start : UserAgent Host} {ops : List Op}
    (cancelled : CancelledThroughout start (ops ++ [op])) :
    Cancelled (moments UserAgent.step start (ops ++ [op])) := by
  unfold moments
  rw [run_append]
  exact (stepsMeet_append.mp cancelled).2.1

/-- A call is dialled and the agent shuts down before the far end is on it. -/
def shutDownEarly : List Op := [.call 1 (ascii "101") 0, .shutdown 1]

/-- Nobody is left to cancel the INVITE when the far end is on it. -/
theorem shutDownEarly_not_cancelled :
    ¬ CancelledThroughout UserAgent.ideal (shutDownEarly ++ [.message dialledRinging 2]) := by
  intro cancelled
  have one := cancelled.last (ascii "z9hG4bK5") (by decide +kernel) (by decide +kernel)
  have uncancelled : (cancelsOn (ascii "z9hG4bK5") (acts (moments UserAgent.step UserAgent.ideal
      (shutDownEarly ++ [.message dialledRinging 2])))).length ≠ 1 := by
    decide +kernel
  exact uncancelled one

end KetPhone.Core
