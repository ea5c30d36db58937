/-
This file shows that no call hangs in its set-up. A call that waits for the answer
to its INVITE has that INVITE pending, and only that one; a call that waits for an
ACK keeps its deadline. Both deadlines are known to the clock, and when one has
come the timer ends the call. The link between a call and its INVITE is kept by
every step, through digest retries, lost connections and late responses.
-/

import KetPhone.UserAgent.CallSteps

namespace KetPhone.Core

open Sip List OrderedMap UserAgent

variable {Host : Type}

/-! ### Pending INVITEs -/

namespace Transaction

variable {transaction other : Transaction} {context : InviteContext}

theorem invite_fits (invites : transaction.onFinal = .invite context) :
    FinalHandler.Fits (.invite context) transaction.request transaction.branch
      transaction.onProvisional :=
  invites ▸ transaction.fits

theorem key_of_invite (invites : transaction.onFinal = .invite context) :
    transaction.key = transactionKey context.branch (ascii "INVITE") := by
  have fits := invite_fits invites
  show transactionKey transaction.branch transaction.request.method = _
  rw [fits.1, fits.2.1]

theorem suffix_key (transaction : Transaction) :
    ascii " " ++ transaction.method <:+ transaction.key :=
  ⟨transaction.branch, (append_assoc ..).symm⟩

/-- What shares its key with an INVITE is an INVITE on the same branch. -/
theorem invite_of_key (invites : transaction.onFinal = .invite context)
    (same : other.key = transaction.key) :
    ∃ found, other.onFinal = .invite found ∧ found.branch = context.branch := by
  have method : transaction.method = ascii "INVITE" := (invite_fits invites).1
  match handler : other.onFinal with
  | .register _ _ =>
    refine absurd same (key_ne_of_isRegister ?_ ?_)
    · rw [handler]
      rfl
    · rw [invites]
      rfl
  | .invite found =>
    refine ⟨found, rfl, ?_⟩
    rw [key_of_invite handler, key_of_invite invites] at same
    exact append_cancel_right (append_cancel_right same)
  | .ignore =>
    have fits := other.fits
    rw [handler] at fits
    have suffixes := suffix_or_suffix_of_suffix (same ▸ other.suffix_key)
      transaction.suffix_key
    rw [method] at suffixes
    rcases fits.1 with bye | cancel
    · rw [show other.method = ascii "BYE" from bye] at suffixes
      exact absurd suffixes (by decide)
    · rw [show other.method = ascii "CANCEL" from cancel] at suffixes
      exact absurd suffixes (by decide)

end Transaction

/-- An INVITE is pending, with its context and the recipient it was sent to. -/
def Awaits (transactions : OrderedMap Transaction.key) (context : InviteContext)
    (recipient : Bytes) : Prop :=
  ∃ transaction ∈ transactions.values, transaction.onFinal = .invite context ∧
    transaction.request.recipient = recipient

namespace Awaits

variable {transactions : OrderedMap Transaction.key} {transaction : Transaction}
  {context found : InviteContext} {recipient : Bytes}

theorem branch_ne_nil (awaits : Awaits transactions context recipient) : context.branch ≠ [] := by
  obtain ⟨transaction, -, invites, -⟩ := awaits
  exact Transaction.branch_ne_nil invites

theorem of_pending (pending : transaction ∈ transactions.values)
    (invites : transaction.onFinal = .invite context) :
    Awaits transactions context transaction.request.recipient :=
  ⟨transaction, pending, invites, rfl⟩

theorem unique {other : Bytes} (awaits : Awaits transactions context recipient)
    (also : Awaits transactions found other) (same : found.branch = context.branch) :
    found = context ∧ other = recipient := by
  obtain ⟨first, member, invites, rfl⟩ := awaits
  obtain ⟨second, memberToo, invitesToo, rfl⟩ := also
  have key : second.key = first.key := by
    rw [Transaction.key_of_invite invites, Transaction.key_of_invite invitesToo, same]
  cases transactions.eq_of_key_eq member memberToo key
  cases invites.symm.trans invitesToo
  exact ⟨rfl, rfl⟩

theorem put_ignored (ignored : transaction.onFinal = .ignore) :
    Awaits (transactions.put transaction) context recipient ↔
      Awaits transactions context recipient := by
  constructor
  · rintro ⟨other, member, invites, sent⟩
    rcases mem_values_put.mp member with rfl | ⟨-, old⟩
    · exact nomatch ignored.symm.trans invites
    · exact ⟨other, old, invites, sent⟩
  · rintro ⟨other, member, invites, sent⟩
    refine ⟨other, mem_values_put.mpr (Or.inr ⟨fun same => ?_, member⟩), invites, sent⟩
    obtain ⟨_, handler, -⟩ := Transaction.invite_of_key invites same.symm
    exact nomatch ignored.symm.trans handler

theorem proceed (pending : transaction ∈ transactions.values) (now : Time) :
    Awaits (transactions.put (transaction.proceed now)) context recipient ↔
      Awaits transactions context recipient := by
  constructor
  · rintro ⟨other, member, invites, sent⟩
    rcases mem_values_put.mp member with rfl | ⟨-, old⟩
    · rw [Transaction.proceed_onFinal] at invites
      rw [Transaction.proceed_request] at sent
      exact ⟨transaction, pending, invites, sent⟩
    · exact ⟨other, old, invites, sent⟩
  · rintro ⟨other, member, invites, sent⟩
    by_cases same : other.key = transaction.key
    · cases transactions.eq_of_key_eq pending member same
      refine ⟨transaction.proceed now, mem_values_put.mpr (Or.inl rfl), ?_, ?_⟩
      · rw [Transaction.proceed_onFinal]
        exact invites
      · rw [Transaction.proceed_request]
        exact sent
    · refine ⟨other, mem_values_put.mpr (Or.inr ⟨?_, member⟩), invites, sent⟩
      rw [Transaction.proceed_key]
      exact same

theorem change (now : Time) :
    Awaits (transactions.change (·.backOff now) fun transaction => transaction.backOff_key now)
        context recipient ↔
      Awaits transactions context recipient := by
  constructor
  · rintro ⟨_, member, invites, sent⟩
    obtain ⟨other, old, rfl⟩ := mem_map.mp member
    rw [Transaction.backOff_onFinal] at invites
    rw [Transaction.backOff_request] at sent
    exact ⟨other, old, invites, sent⟩
  · rintro ⟨other, old, invites, sent⟩
    refine ⟨other.backOff now, mem_map_of_mem old, ?_, ?_⟩
    · rw [Transaction.backOff_onFinal]
      exact invites
    · rw [Transaction.backOff_request]
      exact sent

theorem erase_ignored (pending : transaction ∈ transactions.values)
    (ignored : transaction.onFinal = .ignore) :
    Awaits (transactions.erase transaction.key) context recipient ↔
      Awaits transactions context recipient := by
  constructor
  · rintro ⟨other, member, answered⟩
    exact ⟨other, (mem_values_erase.mp member).1, answered⟩
  · rintro ⟨other, member, invites, sent⟩
    refine ⟨other, mem_values_erase.mpr ⟨member, fun same => ?_⟩, invites, sent⟩
    cases transactions.eq_of_key_eq pending member same
    exact nomatch ignored.symm.trans invites

theorem erase_invite (invites : transaction.onFinal = .invite found) :
    Awaits (transactions.erase transaction.key) context recipient ↔
      Awaits transactions context recipient ∧ context.branch ≠ found.branch := by
  constructor
  · rintro ⟨other, member, handler, sent⟩
    obtain ⟨old, apart⟩ := mem_values_erase.mp member
    refine ⟨⟨other, old, handler, sent⟩, fun same => apart ?_⟩
    rw [Transaction.key_of_invite handler, Transaction.key_of_invite invites, same]
  · rintro ⟨⟨other, old, handler, sent⟩, apart⟩
    refine ⟨other, mem_values_erase.mpr ⟨old, fun same => apart ?_⟩, handler, sent⟩
    obtain ⟨_, again, branch⟩ := Transaction.invite_of_key invites same
    cases handler.symm.trans again
    exact branch

theorem put_invite (invites : transaction.onFinal = .invite found) :
    Awaits (transactions.put transaction) context recipient ↔
      context = found ∧ recipient = transaction.request.recipient ∨
        Awaits transactions context recipient ∧ context.branch ≠ found.branch := by
  constructor
  · rintro ⟨other, member, handler, sent⟩
    rcases mem_values_put.mp member with rfl | ⟨apart, old⟩
    · cases invites.symm.trans handler
      exact Or.inl ⟨rfl, sent.symm⟩
    · refine Or.inr ⟨⟨other, old, handler, sent⟩, fun same => apart ?_⟩
      rw [Transaction.key_of_invite handler, Transaction.key_of_invite invites, same]
  · rintro (⟨rfl, rfl⟩ | ⟨⟨other, old, handler, sent⟩, apart⟩)
    · exact ⟨transaction, mem_values_put.mpr (Or.inl rfl), invites, rfl⟩
    · refine ⟨other, mem_values_put.mpr (Or.inr ⟨fun same => apart ?_, old⟩), handler,
        sent⟩
      obtain ⟨_, again, branch⟩ := Transaction.invite_of_key invites same
      cases handler.symm.trans again
      exact branch

theorem half {others : OrderedMap Transaction.key}
    (same : Core.half false others = Core.half false transactions) :
    Awaits others context recipient ↔ Awaits transactions context recipient := by
  have moves {first second : OrderedMap Transaction.key}
      (same : Core.half false first = Core.half false second) :
      Awaits first context recipient → Awaits second context recipient := by
    rintro ⟨other, member, invites, sent⟩
    refine ⟨other, mem_values_of_half false same ?_ member, invites, sent⟩
    rw [invites]
    rfl
  exact ⟨moves same, moves same.symm⟩

end Awaits

/-! ### A call and its INVITE -/

/-- What the handlers of a call's current INVITE remember of it. -/
def Call.context (call : Call) : InviteContext :=
  { callId := call.id
    uri := call.inviteUri
    sender := call.localHeader
    sipCallId := call.sipCallId
    cseq := call.inviteCseq
    branch := call.inviteBranch }

/-- The To header of a call's INVITEs. -/
def Call.inviteRecipient (call : Call) : Bytes := ascii "<" ++ call.inviteUri ++ ascii ">"

/-- The states a call can be in, and what it has in them. -/
structure Call.Shaped (call : Call) : Prop where
  outgoing : call.outgoing = true → (call.state = .calling ∨ call.state = .confirmed) ∧
    call.mediaOpen = true ∧ call.inviteBranch ≠ []
  incoming : call.outgoing = false → (call.state = .ringing ∧ call.mediaOpen = false ∨
      (call.state = .answering ∨ call.state = .confirmed) ∧ call.mediaOpen = true) ∧
    call.invite.isSome = true ∧ call.inviteBranch = []

namespace Call.Shaped

variable {call : Call}

theorem outgoing_of_calling (shaped : call.Shaped) (calling : call.state = .calling) :
    call.outgoing = true := by
  by_contra incoming
  have states := (shaped.incoming (Bool.eq_false_iff.mpr incoming)).1
  rw [calling] at states
  simp at states

theorem outgoing_of_branch (shaped : call.Shaped) (named : call.inviteBranch ≠ []) :
    call.outgoing = true := by
  by_contra incoming
  exact named (shaped.incoming (Bool.eq_false_iff.mpr incoming)).2.2

theorem mediaOpen_of_ringing (shaped : call.Shaped) (incoming : call.outgoing = false)
    (ringing : call.state = .ringing) : call.mediaOpen = false := by
  have states := (shaped.incoming incoming).1
  rw [ringing] at states
  simpa using states

theorem mediaOpen_of_settled (shaped : call.Shaped)
    (settled : call.outgoing = true ∨ call.state = .confirmed) : call.mediaOpen = true := by
  cases outgoing : call.outgoing with
  | true => exact (shaped.outgoing outgoing).2.1
  | false =>
    have states := (shaped.incoming outgoing).1
    rw [settled.resolve_left (Bool.eq_false_iff.mp outgoing)] at states
    simpa using states

end Call.Shaped

/-- The call of the agent and its INVITE know each other. -/
structure UserAgent.Linked (agent : UserAgent Host) : Prop where
  shaped : ∀ call, agent.current = some call → call.Shaped
  calling : ∀ call, agent.current = some call → call.state = .calling →
    Awaits agent.transactions call.context call.inviteRecipient
  owned : ∀ call context recipient, agent.current = some call →
    Awaits agent.transactions context recipient → context.callId = call.id →
      context.branch = call.inviteBranch → call.state = .calling

namespace UserAgent.Linked

variable [UserAgentHost Host] {before after : UserAgent Host}
  {pending : OrderedMap Transaction.key} {added : List Action}

omit [UserAgentHost Host] in
theorem of_idle (idle : after.current = none) : after.Linked where
  shaped := fun _ present => nomatch idle.symm.trans present
  calling := fun _ present => nomatch idle.symm.trans present
  owned := fun _ _ _ present => nomatch idle.symm.trans present

theorem of_current {next : Call} (does : Does before after (some next) pending added)
    (shaped : next.Shaped)
    (calling : next.state = .calling → Awaits pending next.context next.inviteRecipient)
    (owned : ∀ context recipient, Awaits pending context recipient → context.callId = next.id →
      context.branch = next.inviteBranch → next.state = .calling) : after.Linked where
  shaped := by
    intro call present
    cases does.current.symm.trans present
    exact shaped
  calling := by
    intro call present state
    cases does.current.symm.trans present
    exact does.transactions ▸ calling state
  owned := by
    intro call context recipient present awaits
    cases does.current.symm.trans present
    exact owned context recipient (does.transactions ▸ awaits)

/-- The call keeps what its INVITE knows of it, and the INVITEs stay. -/
theorem keeps (linked : before.Linked) {call next : Call}
    (does : Does before after (some next) pending added) (present : before.current = some call)
    (shaped : next.Shaped) (context : next.context = call.context) (state : next.state = call.state)
    (same : ∀ context recipient, Awaits pending context recipient ↔
      Awaits before.transactions context recipient) : after.Linked := by
  have uri : next.inviteRecipient = call.inviteRecipient :=
    congrArg (fun context => ascii "<" ++ InviteContext.uri context ++ ascii ">") context
  refine of_current does shaped ?_ fun other recipient awaits id branch => ?_
  · rw [state, context, uri, same]
    exact linked.calling call present
  · rw [state]
    refine linked.owned call other recipient present ((same _ _).mp awaits) ?_ ?_
    · exact id.trans (congrArg InviteContext.callId context)
    · exact branch.trans (congrArg InviteContext.branch context)

omit [UserAgentHost Host] in
theorem stays (linked : before.Linked) (current : after.current = before.current)
    (fewer : ∀ context recipient, Awaits after.transactions context recipient →
      Awaits before.transactions context recipient)
    (kept : ∀ call, before.current = some call →
      Awaits before.transactions call.context call.inviteRecipient →
        Awaits after.transactions call.context call.inviteRecipient) : after.Linked where
  shaped := fun call present => linked.shaped call (current ▸ present)
  calling := fun call present state =>
    kept call (current ▸ present) (linked.calling call (current ▸ present) state)
  owned := fun call context recipient present awaits =>
    linked.owned call context recipient (current ▸ present) (fewer _ _ awaits)

theorem rests (linked : before.Linked)
    (does : Does before after before.current pending added)
    (same : ∀ context recipient, Awaits pending context recipient ↔
      Awaits before.transactions context recipient) : after.Linked :=
  linked.stays does.current (fun _ _ awaits => (same _ _).mp (does.transactions ▸ awaits))
    fun _ _ awaits => does.transactions ▸ (same _ _).mpr awaits

theorem invited {call : Call} {invite : Transaction} {line branch : Bytes}
    (does : Does before after (some (call.invited branch)) (pending.put invite) added)
    (begun : invite.Begun (inviteRequest call line) branch
      (.invite (inviteContext call branch)))
    (outgoing : call.outgoing = true) (calling : call.state = .calling)
    (mediaOpen : call.mediaOpen = true) : after.Linked := by
  have named : branch ≠ [] := Transaction.branch_ne_nil begun.onFinal
  refine of_current does ⟨fun _ => ⟨Or.inl calling, mediaOpen, named⟩, fun incoming => ?_⟩
    (fun _ => (Awaits.put_invite begun.onFinal).mpr (Or.inl ⟨rfl, ?_⟩)) fun _ _ _ _ _ => calling
  · exact nomatch outgoing.symm.trans incoming
  · rw [begun.request]
    rfl

theorem of_incoming {next : Call} (does : Does before after (some next) pending added)
    (shaped : next.Shaped) (incoming : next.outgoing = false) : after.Linked := by
  refine of_current does shaped (fun calling => ?_) fun context recipient awaits _ branch => ?_
  · exact nomatch incoming.symm.trans (shaped.outgoing_of_calling calling)
  · rw [(shaped.incoming incoming).2.2] at branch
    exact absurd branch awaits.branch_ne_nil

omit [UserAgentHost Host] in
theorem of_callOf (linked : before.Linked) {transaction : Transaction} {context : InviteContext}
    {call : Call} (member : transaction ∈ before.transactions.values)
    (invites : transaction.onFinal = .invite context) (own : before.callOf context = some call) :
    before.current = some call ∧ call.state = .calling ∧ call.outgoing = true ∧
      call.mediaOpen = true := by
  obtain ⟨present, id, branch⟩ := callOf_eq_some own
  have calling := linked.owned call context _ present (Awaits.of_pending member invites) id.symm
    branch.symm
  have outgoing := (linked.shaped call present).outgoing_of_calling calling
  exact ⟨present, calling, outgoing, ((linked.shaped call present).outgoing outgoing).2.1⟩

omit [UserAgentHost Host] in
theorem callOf_of_branch (linked : before.Linked) {call : Call} {context : InviteContext}
    {recipient : Bytes} (present : before.current = some call) (calling : call.state = .calling)
    (awaits : Awaits before.transactions context recipient)
    (branch : context.branch = call.inviteBranch) : before.callOf context = some call := by
  obtain ⟨rfl, -⟩ := (linked.calling call present calling).unique awaits branch
  refine Option.filter_eq_some_iff.mpr ⟨present, ?_⟩
  rw [Bool.and_eq_true, decide_eq_true_iff, decide_eq_true_iff]
  exact ⟨rfl, rfl⟩

/-- An INVITE that is not the call's is over. -/
theorem loses (linked : before.Linked) {transaction : Transaction} {context : InviteContext}
    (member : transaction ∈ before.transactions.values)
    (invites : transaction.onFinal = .invite context) (gone : before.callOf context = none)
    (does : Does before after before.current pending added)
    (same : ∀ other recipient, Awaits pending other recipient ↔
      Awaits (before.transactions.erase transaction.key) other recipient) : after.Linked := by
  have erased (other : InviteContext) (recipient : Bytes) :
      Awaits pending other recipient ↔
        Awaits before.transactions other recipient ∧ other.branch ≠ context.branch :=
    (same other recipient).trans (Awaits.erase_invite invites)
  refine linked.stays does.current (fun other recipient awaits => ?_) fun call present awaits => ?_
  · rw [does.transactions] at awaits
    exact ((erased other recipient).mp awaits).1
  · rw [does.transactions, erased]
    refine ⟨awaits, fun branch => ?_⟩
    obtain ⟨own, -⟩ := (Awaits.of_pending member invites).unique awaits branch
    have found : before.callOf context = some call := by
      refine Option.filter_eq_some_iff.mpr ⟨present, ?_⟩
      rw [← own, Bool.and_eq_true, decide_eq_true_iff, decide_eq_true_iff]
      exact ⟨rfl, rfl⟩
    exact nomatch gone.symm.trans found

end UserAgent.Linked

variable [UserAgentHost Host]

theorem UserAgent.Linked.retransmit {agent : UserAgent Host} (linked : agent.Linked) (now : Time) :
    (agent.retransmit now).Linked := by
  obtain ⟨host, equal⟩ := agent.retransmit_eq now
  rw [equal]
  exact linked.stays rfl (fun _ _ => (Awaits.change now).mp)
    fun _ _ => (Awaits.change now).mpr

theorem CallTurn.linked {cause : Cause} {added : List Action}
    {before after : UserAgent Host} (turn : CallTurn cause added before after)
    (linked : before.Linked) : after.Linked := by
  have shaped {call : Call} (present : before.current = some call) := linked.shaped call present
  cases turn with
  | rests does => exact linked.rests does fun _ _ => Iff.rfl
  | replies _ does => exact linked.rests does fun _ _ => Iff.rfl
  | acknowledges _ _ does => exact linked.rests does fun _ _ => Iff.rfl
  | proceeds heard _ _ does => exact linked.rests does fun _ _ => Awaits.proceed heard.pending _
  | progresses heard _ present _ _ _ _ does =>
    exact linked.keeps does present { shaped present with } rfl rfl
      fun _ _ => Awaits.proceed heard.pending _
  | cancelsLate heard _ present _ _ _ _ _ begun does =>
    exact linked.keeps does present { shaped present with } rfl rfl
      fun _ _ => (Awaits.put_ignored begun.onFinal).trans (Awaits.proceed heard.pending _)
  | concludes pending ignored does =>
    exact linked.rests does fun _ _ => Awaits.erase_ignored pending ignored
  | forgets pending invites gone _ does =>
    exact linked.loses pending invites gone does fun _ _ => Iff.rfl
  | parts heard _ invites gone _ begun does =>
    exact linked.loses heard.pending invites gone does fun _ _ => Awaits.put_ignored begun.onFinal
  | fails _ _ _ _ does => exact .of_idle does.current
  | retries pending invites own _ _ _ begun does =>
    obtain ⟨-, calling, outgoing, mediaOpen⟩ := linked.of_callOf pending invites own
    exact .invited does begun outgoing calling mediaOpen
  | connects heard _ invites own _ _ _ does =>
    have ⟨present, _, branch⟩ := callOf_eq_some own
    have outgoing :=
      (shaped present).outgoing_of_branch (branch ▸ Transaction.branch_ne_nil invites)
    refine .of_current does ⟨fun _ => ⟨Or.inr rfl, ((shaped present).outgoing outgoing).2⟩,
      fun incoming => nomatch outgoing.symm.trans incoming⟩ nofun fun context _ awaits _ same => ?_
    exact absurd (same.trans branch) ((Awaits.erase_invite invites).mp awaits).2
  | drops _ _ _ _ _ _ _ does => exact .of_idle does.current
  | dialFails _ _ _ does => exact .of_idle does.current
  | dials _ _ dialling _ begun does =>
    exact .invited does begun dialling.outgoing dialling.state dialling.mediaOpen
  | rings _ _ _ does =>
    exact .of_incoming does ⟨nofun, fun _ => ⟨Or.inl ⟨rfl, rfl⟩, rfl, rfl⟩⟩ rfl
  | reinvites _ same _ does =>
    have present := (sameCall_eq_some same).1
    exact linked.keeps does present { shaped present with } rfl rfl fun _ _ => Iff.rfl
  | confirms present incoming answering _ does =>
    obtain ⟨states, kept⟩ := (shaped present).incoming incoming
    rw [answering] at states
    refine .of_incoming does ⟨fun outgoing => (nomatch incoming.symm.trans outgoing), fun _ =>
      ⟨Or.inr ⟨Or.inr rfl, ?_⟩, kept⟩⟩ incoming
    simpa using states
  | hearsBye _ _ does => exact .of_idle does.current
  | hearsCancel _ _ _ _ does => exact .of_idle does.current
  | rejects _ _ _ does => exact .of_idle does.current
  | answerFails _ _ _ _ does => exact .of_idle does.current
  | accepts present incoming _ _ does =>
    exact .of_incoming does ⟨fun outgoing => (nomatch incoming.symm.trans outgoing), fun _ =>
      ⟨Or.inr ⟨Or.inl rfl, rfl⟩, ((shaped present).incoming incoming).2⟩⟩ incoming
  | resends present _ _ does =>
    exact linked.keeps does present { shaped present with } rfl rfl fun _ _ => Iff.rfl
  | givesUp present _ _ _ does =>
    exact linked.keeps does present { shaped present with } rfl rfl fun _ _ => Iff.rfl
  | cancels present _ _ _ _ begun does =>
    exact linked.keeps does present { shaped present with } rfl rfl
      fun _ _ => Awaits.put_ignored begun.onFinal
  | abandons _ _ _ does => exact .of_idle does.current
  | saysBye _ _ _ does => exact .of_idle does.current

theorem CallStep.linked {cause : Cause} {added : List Action}
    {before after : UserAgent Host} (step : CallStep cause added before after)
    (linked : before.Linked) : after.Linked := by
  cases step with
  | registers side =>
    exact linked.stays side.frame.current (fun _ _ => (Awaits.half side.frame.calls).mp)
      fun _ _ => (Awaits.half side.frame.calls).mpr
  | calls turn => exact turn.linked linked

/-! ### Calls by their marks -/

section Marks

variable {Mark : Type} (mark : Int32 → Bytes → Mark)

/-- The mark of a call that begins: its id, or its Call-ID. -/
def Action.begins : Action → Option Mark
  | .begin _ id sipCallId => some (mark id sipCallId)
  | _ => none

theorem RegisterSide.filterMap_eq_nil {Seen : Type} {observe : Action → Option Seen}
    {before after : UserAgent Host} {added : List Action} (side : RegisterSide before after)
    (blind : ∀ action : Action, action.ConcernsRegistration → observe action = none)
    (log : after.log = before.log ++ added) : added.filterMap observe = [] := by
  obtain ⟨more, equal, concerns⟩ := side.frame.log
  rw [append_cancel_left (log.symm.trans equal), filterMap_eq_nil_iff]
  exact fun action member => blind action (concerns action member).1

/-- The marks of all calls so far. -/
def UserAgent.marks (agent : UserAgent Host) : List Mark := agent.log.filterMap (Action.begins mark)

/-- While marks are not used twice, a pending INVITE with the mark of the call is the call's. -/
structure Kin (agent : UserAgent Host) : Prop where
  pending : ∀ context recipient, Awaits agent.transactions context recipient →
    mark context.callId context.sipCallId ∈ agent.marks mark
  current : ∀ call, agent.current = some call → mark call.id call.sipCallId ∈ agent.marks mark
  own : (agent.marks mark).Nodup → ∀ call context recipient, agent.current = some call →
    Awaits agent.transactions context recipient →
      mark context.callId context.sipCallId = mark call.id call.sipCallId →
        context.branch = call.inviteBranch ∧ call.state = .calling

variable {mark}

omit [UserAgentHost Host] in
theorem UserAgent.marks_append {before after : UserAgent Host} {added : List Action}
    (log : after.log = before.log ++ added) :
    after.marks mark = before.marks mark ++ added.filterMap (Action.begins mark) := by
  unfold marks
  rw [log, filterMap_append]

omit [UserAgentHost Host] in
theorem UserAgent.marks_nodup {before after : UserAgent Host} {added : List Action}
    (distinct : (after.marks mark).Nodup) (log : after.log = before.log ++ added) :
    (before.marks mark).Nodup := by
  rw [marks_append log] at distinct
  exact (nodup_append.mp distinct).1

theorem Call.farewell_begins (call : Call) (reason : EndReason) (status : Int) :
    (call.farewell reason status).filterMap (Action.begins mark) = [] := by
  unfold Call.farewell
  split <;> rfl

namespace Kin

variable {before after : UserAgent Host} {added : List Action}

omit [UserAgentHost Host] in
/-- No call begins, and what is pending was pending. -/
theorem stays (kin : Kin mark before) (log : after.log = before.log ++ added)
    (unbegun : added.filterMap (Action.begins mark) = [])
    (fewer : ∀ context recipient, Awaits after.transactions context recipient →
      Awaits before.transactions context recipient)
    (calls : ∀ next, after.current = some next → ∃ call, before.current = some call ∧
      next.id = call.id ∧ next.sipCallId = call.sipCallId ∧
        ∀ context recipient, Awaits after.transactions context recipient →
          context.branch = call.inviteBranch → call.state = .calling →
            context.branch = next.inviteBranch ∧ next.state = .calling) : Kin mark after := by
  have marks : after.marks mark = before.marks mark := by
    rw [marks_append log, unbegun, append_nil]
  refine ⟨fun context recipient awaits => ?_, fun next present => ?_,
    fun distinct next context recipient present awaits same => ?_⟩
  · rw [marks]
    exact kin.pending context recipient (fewer _ _ awaits)
  · obtain ⟨call, here, id, sipCallId, -⟩ := calls next present
    rw [marks, id, sipCallId]
    exact kin.current call here
  · obtain ⟨call, here, id, sipCallId, keeps⟩ := calls next present
    rw [marks] at distinct
    rw [id, sipCallId] at same
    obtain ⟨branch, calling⟩ :=
      kin.own distinct call context recipient here (fewer _ _ awaits) same
    exact keeps context recipient awaits branch calling

theorem keeps (kin : Kin mark before) {pending : OrderedMap Transaction.key} {call next : Call}
    (does : Does before after (some next) pending added) (present : before.current = some call)
    (unbegun : added.filterMap (Action.begins mark) = [])
    (fewer : ∀ context recipient, Awaits pending context recipient →
      Awaits before.transactions context recipient)
    (id : next.id = call.id) (sipCallId : next.sipCallId = call.sipCallId)
    (branch : next.inviteBranch = call.inviteBranch)
    (state : call.state = .calling → next.state = .calling) : Kin mark after := by
  refine kin.stays does.log unbegun (fun _ _ awaits => fewer _ _ (does.transactions ▸ awaits))
    fun other here => ?_
  cases does.current.symm.trans here
  exact ⟨call, present, id, sipCallId, fun _ _ _ same calling => ⟨branch ▸ same, state calling⟩⟩

theorem rests (kin : Kin mark before) {pending : OrderedMap Transaction.key}
    (does : Does before after before.current pending added)
    (unbegun : added.filterMap (Action.begins mark) = [])
    (fewer : ∀ context recipient, Awaits pending context recipient →
      Awaits before.transactions context recipient) : Kin mark after :=
  kin.stays does.log unbegun (fun _ _ awaits => fewer _ _ (does.transactions ▸ awaits))
    fun call present => ⟨call, does.current ▸ present, rfl, rfl, fun _ _ _ => And.intro⟩

/-- The call sends its INVITE again, under another branch. -/
theorem again (kin : Kin mark before) {call : Call} {transaction invite : Transaction}
    {context : InviteContext} {branch : Bytes}
    (does : Does before after (some ({ call with authenticated := true }.invited branch))
      ((before.transactions.erase transaction.key).put invite) added)
    (present : before.current = some call) (calling : call.state = .calling)
    (invites : transaction.onFinal = .invite context)
    (replaced : context.branch = call.inviteBranch)
    (anew : invite.onFinal =
      .invite (inviteContext { call with authenticated := true } branch))
    (unbegun : added.filterMap (Action.begins mark) = []) : Kin mark after := by
  have marks : after.marks mark = before.marks mark := by
    rw [marks_append does.log, unbegun, append_nil]
  have fewer {other : InviteContext} {recipient : Bytes}
      (awaits : Awaits after.transactions other recipient) :
      other = inviteContext { call with authenticated := true } branch ∨
        Awaits before.transactions other recipient ∧ other.branch ≠ context.branch := by
    rw [does.transactions] at awaits
    rcases (Awaits.put_invite anew).mp awaits with ⟨new, -⟩ | ⟨old, -⟩
    · exact Or.inl new
    · exact Or.inr ((Awaits.erase_invite invites).mp old)
  refine ⟨fun other recipient awaits => ?_, fun next here => ?_,
    fun distinct next other recipient here awaits same => ?_⟩
  · rw [marks]
    rcases fewer awaits with rfl | ⟨old, -⟩
    · exact kin.current call present
    · exact kin.pending other recipient old
  · cases does.current.symm.trans here
    rw [marks]
    exact kin.current call present
  · cases does.current.symm.trans here
    rcases fewer awaits with rfl | ⟨old, apart⟩
    · exact ⟨rfl, calling⟩
    · rw [marks] at distinct
      obtain ⟨branch, -⟩ := kin.own distinct call other recipient present old same
      exact absurd (branch.trans replaced.symm) apart

theorem ends (kin : Kin mark before) {pending : OrderedMap Transaction.key}
    (does : Does before after none pending added)
    (unbegun : added.filterMap (Action.begins mark) = [])
    (fewer : ∀ context recipient, Awaits pending context recipient →
      Awaits before.transactions context recipient) : Kin mark after :=
  kin.stays does.log unbegun (fun _ _ awaits => fewer _ _ (does.transactions ▸ awaits))
    fun _ present => nomatch does.current.symm.trans present

/-- A call begins, perhaps with an INVITE. -/
theorem begins (kin : Kin mark before) {pending : OrderedMap Transaction.key} {next : Option Call}
    {id : Int32} {sipCallId : Bytes} (does : Does before after next pending added)
    (begun : added.filterMap (Action.begins mark) = [mark id sipCallId])
    (fewer : ∀ context recipient, Awaits pending context recipient →
      Awaits before.transactions context recipient ∨
        context.callId = id ∧ context.sipCallId = sipCallId ∧
          ∀ call, next = some call → context.branch = call.inviteBranch ∧ call.state = .calling)
    (named : ∀ call, next = some call → call.id = id ∧ call.sipCallId = sipCallId) :
    Kin mark after := by
  have marks : after.marks mark = before.marks mark ++ [mark id sipCallId] := by
    rw [marks_append does.log, begun]
  rw [← does.transactions] at fewer
  refine ⟨fun context recipient awaits => ?_, fun call present => ?_,
    fun distinct call context recipient present awaits same => ?_⟩
  · rw [marks]
    rcases fewer _ _ awaits with old | ⟨rfl, rfl, -⟩
    · exact mem_append_left _ (kin.pending context recipient old)
    · exact mem_append_right _ (mem_singleton_self _)
  · obtain ⟨rfl, rfl⟩ := named call (does.current ▸ present)
    rw [marks]
    exact mem_append_right _ (mem_singleton_self _)
  · rcases fewer _ _ awaits with old | ⟨-, -, keeps⟩
    · -- an INVITE pending before has another mark
      obtain ⟨rfl, rfl⟩ := named call (does.current ▸ present)
      rw [marks, nodup_append] at distinct
      exact absurd same (distinct.2.2 _ (kin.pending context recipient old) _
        (mem_singleton_self _))
    · exact keeps call (does.current ▸ present)

end Kin

theorem Kin.retransmit {agent : UserAgent Host} (kin : Kin mark agent) (now : Time) :
    Kin mark (agent.retransmit now) := by
  obtain ⟨host, equal⟩ := agent.retransmit_eq now
  rw [equal]
  refine kin.stays rfl ?_ (fun _ _ => (Awaits.change now).mp) fun call present =>
    ⟨call, present, rfl, rfl, fun _ _ _ => And.intro⟩
  rw [filterMap_map]
  exact filterMap_eq_nil_iff.mpr fun _ _ => rfl

theorem CallTurn.kin {cause : Cause} {added : List Action}
    {before after : UserAgent Host} (turn : CallTurn cause added before after)
    (linked : before.Linked) (kin : Kin mark before) : Kin mark after := by
  have fewer {transaction : Transaction} {context : InviteContext}
      (invites : transaction.onFinal = .invite context) (other : InviteContext) (recipient : Bytes)
      (awaits : Awaits (before.transactions.erase transaction.key) other recipient) :
      Awaits before.transactions other recipient := ((Awaits.erase_invite invites).mp awaits).1
  cases turn with
  | rests does => exact kin.rests does rfl fun _ _ => id
  | replies _ does => exact kin.rests does rfl fun _ _ => id
  | acknowledges _ _ does => exact kin.rests does rfl fun _ _ => id
  | proceeds heard _ _ does =>
    exact kin.rests does rfl fun _ _ => (Awaits.proceed heard.pending _).mp
  | progresses heard _ present _ _ _ told does =>
    refine kin.keeps does present ?_ (fun _ _ => (Awaits.proceed heard.pending _).mp) rfl rfl rfl id
    rcases told with rfl | ⟨_, _, _, rfl⟩ <;> rfl
  | cancelsLate heard _ present _ _ _ _ _ begun does =>
    exact kin.keeps does present rfl (fun _ _ awaits => (Awaits.proceed heard.pending _).mp
      ((Awaits.put_ignored begun.onFinal).mp awaits)) rfl rfl rfl id
  | concludes pending ignored does =>
    exact kin.rests does rfl fun _ _ => (Awaits.erase_ignored pending ignored).mp
  | forgets _ invites _ sent does =>
    refine kin.rests does ?_ (fewer invites)
    rcases sent with rfl | ⟨_, rfl⟩ <;> rfl
  | parts _ _ invites _ _ begun does =>
    exact kin.rests does rfl fun _ _ awaits =>
      fewer invites _ _ ((Awaits.put_ignored begun.onFinal).mp awaits)
  | fails _ invites _ acknowledged does =>
    refine kin.ends does ?_ (fewer invites)
    rcases acknowledged with rfl | ⟨_, rfl⟩ <;>
      exact Call.farewell_begins _ _ _
  | retries pending invites own _ _ _ begun does =>
    obtain ⟨present, -, branch⟩ := callOf_eq_some own
    obtain ⟨-, calling, -⟩ := linked.of_callOf pending invites own
    exact kin.again does present calling invites branch.symm begun.onFinal rfl
  | connects _ _ invites own _ _ _ does =>
    obtain ⟨present, -, branch⟩ := callOf_eq_some own
    refine kin.stays does.log rfl (fun _ _ awaits => fewer invites _ _ (does.transactions ▸ awaits))
      fun next here => ?_
    cases does.current.symm.trans here
    refine ⟨_, present, rfl, rfl, fun other recipient awaits same => ?_⟩
    rw [does.transactions] at awaits
    exact absurd (same.trans branch) ((Awaits.erase_invite invites).mp awaits).2
  | drops _ _ invites _ _ refused begun does =>
    refine kin.ends does ?_ fun _ _ awaits =>
      fewer invites _ _ ((Awaits.put_ignored begun.onFinal).mp awaits)
    rcases refused with rfl | ⟨_, rfl⟩ <;>
      exact Call.farewell_begins _ _ _
  | dialFails _ _ _ does =>
    refine kin.begins does (congrArg (_ :: ·) (Call.farewell_begins _ _ _)) (fun _ _ => Or.inl)
      fun _ here => ?_
    cases here
  | dials _ _ dialling _ begun does =>
    refine kin.begins does rfl (fun context recipient awaits => ?_) fun _ here => ?_
    · rcases (Awaits.put_invite begun.onFinal).mp awaits with ⟨rfl, -⟩ | ⟨old, -⟩
      · refine Or.inr ⟨rfl, rfl, fun _ here => ?_⟩
        cases here
        exact ⟨rfl, dialling.state⟩
      · exact Or.inl old
    · cases here
      exact ⟨rfl, rfl⟩
  | rings _ _ _ does =>
    refine kin.begins does rfl (fun _ _ => Or.inl) fun _ here => ?_
    cases here
    exact ⟨rfl, rfl⟩
  | reinvites _ same _ does =>
    exact kin.keeps does (sameCall_eq_some same).1 rfl (fun _ _ => id) rfl rfl rfl id
  | confirms present _ answering _ does =>
    refine kin.keeps does present rfl (fun _ _ => id) rfl rfl rfl fun calling => ?_
    exact nomatch answering.symm.trans calling
  | hearsBye _ _ does => exact kin.ends does (Call.farewell_begins _ _ _) fun _ _ => id
  | hearsCancel _ _ _ _ does => exact kin.ends does (Call.farewell_begins _ _ _) fun _ _ => id
  | rejects _ _ _ does => exact kin.ends does (Call.farewell_begins _ _ _) fun _ _ => id
  | answerFails _ _ _ refused does =>
    refine kin.ends does ?_ fun _ _ => id
    rcases refused with rfl | ⟨_, _, rfl⟩ <;>
      exact Call.farewell_begins _ _ _
  | accepts present _ ringing _ does =>
    refine kin.keeps does present rfl (fun _ _ => id) rfl rfl rfl fun calling => ?_
    exact nomatch ringing.symm.trans calling
  | resends present _ sent does =>
    refine kin.keeps does present ?_ (fun _ _ => id) rfl rfl rfl id
    rcases sent with rfl | ⟨_, _, rfl⟩ <;> rfl
  | givesUp present _ _ _ does => exact kin.keeps does present rfl (fun _ _ => id) rfl rfl rfl id
  | cancels present _ _ _ _ begun does =>
    exact kin.keeps does present rfl (fun _ _ => (Awaits.put_ignored begun.onFinal).mp) rfl rfl rfl
      id
  | abandons _ _ _ does => exact kin.ends does (Call.farewell_begins _ _ _) fun _ _ => id
  | saysBye _ _ begun does =>
    exact kin.ends does (Call.farewell_begins _ _ _) fun _ _ =>
      (Awaits.put_ignored begun.onFinal).mp

theorem CallStep.kin {cause : Cause} {added : List Action}
    {before after : UserAgent Host} (step : CallStep cause added before after)
    (linked : before.Linked) (kin : Kin mark before) : Kin mark after := by
  cases step with
  | registers side log =>
    refine kin.stays log (side.filterMap_eq_nil (fun action concerns => ?_) log)
      (fun _ _ => (Awaits.half side.frame.calls).mp) fun call present =>
        ⟨call, side.frame.current ▸ present, rfl, rfl, fun _ _ _ => And.intro⟩
    match action with
    | .sendSip _ => rfl
    | .emit _ => rfl
  | calls turn => exact turn.kin linked kin

end Marks

/-! ### Deadlines -/

/-- The call whose end an action reports. -/
def Action.ended : Action → Option Int32
  | .emit event => if event.kind = .callEnded then some event.callId else none
  | _ => none

theorem Action.ended_of_concernsRegistration (action : Action)
    (concerns : action.ConcernsRegistration) : action.ended = none := by
  match action with
  | .sendSip _ => rfl
  | .emit event => exact if_neg fun ended => nomatch ended.symm.trans concerns

theorem Call.farewell_ended (call : Call) (reason : EndReason) (status : Int) :
    (call.farewell reason status).filterMap Action.ended = [call.id] := by
  unfold Call.farewell
  split <;> rfl

/-- A call is left as it was, or it was ended, once. -/
def Leaves (call : Call) (before after : UserAgent Host) : Prop :=
  ∃ added, after.log = before.log ++ added ∧
    (after.current = some call ∧ added.filterMap Action.ended = [] ∨
      after.current = none ∧ added.filterMap Action.ended = [call.id])

namespace Leaves

variable {call : Call} {before after : UserAgent Host}

theorem registers (leaves : Leaves call before after) {later : UserAgent Host}
    (side : RegisterSide after later) : Leaves call before later := by
  obtain ⟨added, log, ends⟩ := leaves
  obtain ⟨more, grown, -⟩ := side.frame.log
  refine ⟨added ++ more, by rw [grown, log, append_assoc], ?_⟩
  rw [side.frame.current, filterMap_append,
    side.filterMap_eq_nil Action.ended_of_concernsRegistration grown, append_nil]
  exact ends

theorem endCall (leaves : Leaves call before after) (reason : EndReason) (status : Int) :
    Leaves call before (after.endCall reason status) := by
  obtain ⟨added, log, ⟨present, unended⟩ | ⟨gone, ended⟩⟩ := leaves
  · have does := Does.refl after
    rw [present] at does
    have ended := does.endCall reason status
    refine ⟨added ++ call.farewell reason status, ?_, Or.inr ⟨ended.current, ?_⟩⟩
    · rw [ended.log, log, List.append_assoc]
      rfl
    · rw [List.filterMap_append, unended, call.farewell_ended]
      rfl
  · unfold UserAgent.endCall
    rw [gone]
    exact ⟨added, log, Or.inr ⟨gone, ended⟩⟩

theorem runFinal (leaves : Leaves call before after) (handler : FinalHandler) (now : Time) :
    Leaves call before (after.runFinal handler none now) := by
  match handler with
  | .register expires authenticated =>
    exact leaves.registers
      ((RegisterSide.refl _).onRegisterFinal none nofun expires authenticated now)
  | .invite context =>
    show Leaves call before
      (if (after.callOf context).isSome then after.endCall .timeout 408 else after)
    split
    · exact leaves.endCall _ _
    · exact leaves
  | .ignore => exact leaves

theorem expire (leaves : Leaves call before after) (now : Time) (key : Bytes) :
    Leaves call before (after.expire now key) := by
  unfold UserAgent.expire
  split
  · exact leaves
  next transaction _ =>
    have erased : Leaves call before
        { after with transactions := after.transactions.erase key } := leaves
    exact erased.runFinal transaction.onFinal now

theorem expired {agent : UserAgent Host} (present : agent.current = some call) (now : Time) :
    Leaves call agent (agent.expired now) := by
  refine loop_keeps (Leaves call agent) _ (fun _ key _ leaves => leaves.expire now key) ?_
  obtain ⟨host, equal⟩ := agent.retransmit_eq now
  rw [equal]
  refine ⟨_, rfl, Or.inl ⟨present, ?_⟩⟩
  rw [filterMap_map]
  exact filterMap_eq_nil_iff.mpr fun _ _ => rfl

/-- A wait for an ACK that is over ends the call. -/
theorem awaitAck (leaves : Leaves call before after) {now : Time}
    (lapsed : after.current = some call → call.state = .answering ∧ call.ackDeadline ≤ now) :
    ∃ added, (after.awaitAck now).log = before.log ++ added ∧
      (after.awaitAck now).current = none ∧ added.filterMap Action.ended = [call.id] := by
  obtain ⟨added, log, ⟨present, unended⟩ | ⟨gone, ended⟩⟩ := leaves
  · obtain ⟨answering, deadline⟩ := lapsed present
    have waited : after.awaitAck now = (after.sendBye call now).endCall .timeout 408 := by
      unfold UserAgent.awaitAck
      rw [present]
      dsimp only
      rw [if_neg (not_not.mpr answering), if_pos deadline]
    obtain ⟨bye, -, -, -, sent⟩ := (Does.refl after).sendBye call now
    have ended := sent.endCall .timeout 408
    rw [← waited] at ended
    refine ⟨added ++ ([.sendSip bye.packet] ++ call.farewell .timeout 408), ?_, ended.current, ?_⟩
    · rw [ended.log, log, List.append_assoc]
      rfl
    · rw [List.filterMap_append, unended, List.filterMap_append, call.farewell_ended]
      rfl
  · have waited : after.awaitAck now = after := by
      unfold UserAgent.awaitAck
      rw [gone]
    rw [waited]
    exact ⟨added, log, gone, ended⟩

end Leaves

/-- The timer ends a call, once. -/
def UserAgent.TimerEnds (agent : UserAgent Host) (now : Time) (call : Call) : Prop :=
  (agent.step (.timer now)).current = none ∧
    (agent.asked (.timer now)).filterMap Action.ended = [call.id]

namespace UserAgent.Linked

variable {agent : UserAgent Host} {call : Call} {now : Time}

theorem expired (linked : agent.Linked) (now : Time) : (agent.expired now).Linked := by
  refine loop_keeps UserAgent.Linked _ (fun state key _ linked => ?_) (linked.retransmit now)
  obtain ⟨added, step⟩ : ∃ added, CallStep (.ticks now) added state (state.expire now key) :=
    CallStep.expire state now key
  exact step.linked linked

theorem not_calling_of_over (linked : agent.Linked) {invite : Transaction}
    (pending : invite ∈ agent.transactions.values) (invites : invite.onFinal = .invite call.context)
    (lapsed : invite.deadline ≤ now) (present : (agent.expired now).current = some call) :
    call.state ≠ .calling := by
  intro calling
  obtain ⟨_, member, handler, -⟩ := (linked.expired now).calling call present calling
  obtain ⟨other, old, early, rfl⟩ := (agent.mem_expired now).mp member
  rw [Transaction.backOff_onFinal] at handler
  have key : other.key = invite.key := by
    rw [Transaction.key_of_invite handler, Transaction.key_of_invite invites]
  cases agent.transactions.eq_of_key_eq pending old key
  exact absurd lapsed (Int.not_le.mpr early)

end UserAgent.Linked

theorem UserAgent.timerEnds {agent : UserAgent Host} {call : Call} {now : Time}
    (present : agent.current = some call)
    (lapsed : (agent.expired now).current = some call →
      call.state = .answering ∧ call.ackDeadline ≤ now) : agent.TimerEnds now call := by
  obtain ⟨added, log, gone, ended⟩ := (Leaves.expired present now).awaitAck lapsed
  have side : RegisterSide ((agent.expired now).awaitAck now) (agent.step (.timer now)) :=
    (RegisterSide.refl _).refresh now
  obtain ⟨more, grown, -⟩ := side.frame.log
  refine ⟨side.frame.current.trans gone, ?_⟩
  unfold UserAgent.asked
  rw [grown, log, append_assoc, drop_left, filterMap_append, ended,
    side.filterMap_eq_nil Action.ended_of_concernsRegistration grown]
  rfl

/-! ### Every run -/

/-- A call mark of the application's: its id. -/
def callId (id : Int32) (_sipCallId : Bytes) : Int32 := id

/-- A call mark of the signalling: its Call-ID. -/
def sipCallId (_id : Int32) (sipCallId : Bytes) : Bytes := sipCallId

/-- An INVITE belongs to a call: its handlers find that call, or it carries the id or the Call-ID of
the call and no other call had that. -/
def UserAgent.Belongs (agent : UserAgent Host) (context : InviteContext) (call : Call) : Prop :=
  agent.callOf context = some call ∨
    (agent.marks callId).Nodup ∧ context.callId = call.id ∨
      (agent.marks sipCallId).Nodup ∧ context.sipCallId = call.sipCallId

/-- No call of the agent hangs in its set-up. -/
structure UserAgent.NeverHangs (agent : UserAgent Host) : Prop where
  invited : ∀ call, agent.current = some call → call.state = .calling →
    ∃ invite, agent.transactions.find (transactionKey call.inviteBranch (ascii "INVITE")) =
      some invite ∧ invite.onFinal = .invite call.context
  alone : ∀ call other context, agent.current = some call → other ∈ agent.transactions.values →
    other.onFinal = .invite context → agent.Belongs context call → call.state = .calling ∧
      agent.transactions.find (transactionKey call.inviteBranch (ascii "INVITE")) = some other
  outgoing : ∀ call, agent.current = some call → call.outgoing = true →
    call.state = .calling ∨ call.state = .confirmed
  incoming : ∀ call, agent.current = some call → call.outgoing = false →
    (call.state = .ringing ∨ call.state = .answering ∨ call.state = .confirmed) ∧
      call.invite.isSome = true
  armed : ∀ call, agent.current = some call → call.state = .calling ∨ call.state = .answering →
    agent.nextDeadline.isSome = true
  unanswered : ∀ call invite now, agent.current = some call → call.state = .calling →
    agent.transactions.find (transactionKey call.inviteBranch (ascii "INVITE")) = some invite →
      invite.deadline ≤ now → agent.TimerEnds now call
  unacknowledged : ∀ call now, agent.current = some call → call.state = .answering →
    call.ackDeadline ≤ now → agent.TimerEnds now call

omit [UserAgentHost Host] in
theorem UserAgent.nextDeadline_isSome {agent : UserAgent Host} {now : Time}
    (due : ¬ agent.Asleep now) : agent.nextDeadline.isSome = true := by
  by_contra unset
  rw [Bool.not_eq_true, Option.isSome_eq_false_iff, Option.isNone_iff_eq_none] at unset
  refine due ((later_nextDeadline_iff now agent).mp ?_)
  rw [unset]
  exact later_none now

namespace UserAgent.Linked

variable {agent : UserAgent Host} {call : Call}

omit [UserAgentHost Host] in
theorem pending (linked : agent.Linked) (present : agent.current = some call)
    (calling : call.state = .calling) :
    ∃ invite, agent.transactions.find (transactionKey call.inviteBranch (ascii "INVITE")) =
      some invite ∧ invite.onFinal = .invite call.context := by
  obtain ⟨invite, pending, invites, -⟩ := linked.calling call present calling
  exact ⟨invite, find_eq_some_iff.mpr ⟨pending, Transaction.key_of_invite invites⟩,
    invites⟩

omit [UserAgentHost Host] in
theorem armed (linked : agent.Linked) (present : agent.current = some call)
    (waiting : call.state = .calling ∨ call.state = .answering) :
    agent.nextDeadline.isSome = true := by
  rcases waiting with calling | answering
  · obtain ⟨invite, found, -⟩ := linked.pending present calling
    refine nextDeadline_isSome fun asleep : agent.Asleep invite.deadline => ?_
    have pending := (find_eq_some_iff.mp found).1
    exact Int.lt_irrefl _ (asleep.transactions invite pending).1
  · refine nextDeadline_isSome fun asleep : agent.Asleep call.ackDeadline => ?_
    exact Int.lt_irrefl _ (asleep.answering call present answering).2

omit [UserAgentHost Host] in
/-- The INVITE that belongs to a call is that of its branch. -/
theorem alone (linked : agent.Linked) (ids : Kin callId agent) (sipCallIds : Kin sipCallId agent)
    {other : Transaction} {context : InviteContext} (present : agent.current = some call)
    (pending : other ∈ agent.transactions.values) (invites : other.onFinal = .invite context)
    (belongs : agent.Belongs context call) : call.state = .calling ∧
      agent.transactions.find (transactionKey call.inviteBranch (ascii "INVITE")) = some other := by
  have awaits := Awaits.of_pending pending invites
  have own : context.branch = call.inviteBranch ∧ call.state = .calling := by
    rcases belongs with found | ⟨distinct, same⟩ | ⟨distinct, same⟩
    · obtain ⟨-, id, branch⟩ := callOf_eq_some found
      exact ⟨branch.symm, linked.owned call context _ present awaits id.symm branch.symm⟩
    · exact ids.own distinct call context _ present awaits same
    · exact sipCallIds.own distinct call context _ present awaits same
  refine ⟨own.2, find_eq_some_iff.mpr ⟨pending, ?_⟩⟩
  rw [Transaction.key_of_invite invites, own.1]

theorem neverHangs (linked : agent.Linked) (ids : Kin callId agent)
    (sipCallIds : Kin sipCallId agent) : agent.NeverHangs where
  invited := fun _ => linked.pending
  alone := fun _ _ _ => linked.alone ids sipCallIds
  outgoing := fun call present outgoing => ((linked.shaped call present).outgoing outgoing).1
  incoming := by
    intro call present incoming
    obtain ⟨states, invite, -⟩ := (linked.shaped call present).incoming incoming
    exact ⟨states.imp And.left And.left, invite⟩
  armed := fun _ => linked.armed
  unanswered := by
    intro call invite now present calling found lapsed
    obtain ⟨same, here, invites⟩ := linked.pending present calling
    cases here.symm.trans found
    refine timerEnds present fun still => ?_
    exact absurd calling (linked.not_calling_of_over (find_eq_some_iff.mp found).1
      invites lapsed still)
  unacknowledged := fun _ _ present answering lapsed =>
    timerEnds present fun _ => ⟨answering, lapsed⟩

end UserAgent.Linked

section Runs

variable (config : UserAgentConfig) (host : Host) (random : Random) (ops : List Op)

theorem linked_run : (run UserAgent.step (UserAgent.create config host random) ops).Linked :=
  holds_run UserAgent.Linked (fun _ now linked => linked.retransmit now)
    (fun step linked => step.linked linked) (.of_idle rfl) ops

omit [UserAgentHost Host] in
theorem Kin.create {Mark : Type} (mark : Int32 → Bytes → Mark) :
    Kin mark (UserAgent.create config host random) where
  pending := fun _ _ ⟨_, pending, _⟩ => absurd pending not_mem_nil
  current := fun _ present => nomatch present
  own := fun _ _ _ _ present => nomatch present

theorem kin_run {Mark : Type} (mark : Int32 → Bytes → Mark) :
    Kin mark (run UserAgent.step (UserAgent.create config host random) ops) :=
  (holds_run (fun agent => agent.Linked ∧ Kin mark agent)
    (fun _ now both => ⟨both.1.retransmit now, both.2.retransmit now⟩)
    (fun step both => ⟨step.linked both.1, step.kin both.1 both.2⟩)
    ⟨.of_idle rfl, Kin.create config host random mark⟩ ops).2

/-- No call hangs in set-up. In every state of a run a call that is calling has its INVITE pending,
and no other INVITE that is pending belongs to it; calls are only in the states of their direction;
and a call that waits, for the answer to its INVITE or for an ACK, has the clock set and is ended by
the timer, with one event, once its time is over. -/
theorem setup_never_hangs :
    (run UserAgent.step (UserAgent.create config host random) ops).NeverHangs :=
  (linked_run config host random ops).neverHangs (kin_run config host random ops callId)
    (kin_run config host random ops sipCallId)

end Runs

end KetPhone.Core
