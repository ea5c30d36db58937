/-
This file shows that every CANCEL is legitimate. A CANCEL is sent only by the call
that waits for the answer to the INVITE, with the headers of that INVITE; what is
sent again later is a CANCEL that was sent then. The call sends it once the far end
has said that it is on the INVITE, and while it is not answered. The flag that the
far end is on it belongs to the call, and a provisional response finds the call by
its id, so an id that is used for two calls can make the INVITE of the first one
vouch for the INVITE of the second.
-/

import KetPhone.UserAgent.Cancelling

namespace KetPhone.Core

open Sip List OrderedMap UserAgent

variable {Host : Type}
variable {added : List Action} {cause : Cause} {after before agent : UserAgent Host}
  {branch : Bytes} {cancel : Request}

/-! ### Legitimate CANCELs -/

/-- There is a CANCEL on a branch among the actions. -/
def Withdraws (actions : List Action) (cancel : Request) (branch : Bytes) : Prop :=
  .sendSip (.request cancel branch) ∈ actions ∧ cancel.method = ascii "CANCEL"

/-- The INVITE that a CANCEL takes back was sent. -/
def Preceded (past : List Action) (cancel : Request) (branch : Bytes) : Prop :=
  ∃ invite, .sendSip (.request invite branch) ∈ past ∧ invite.method = ascii "INVITE" ∧
    Suits cancel invite

/-- A CANCEL comes after its INVITE. -/
def WithdrawsSent (past : List Action) (action : Action) : Prop :=
  ∀ cancel branch, Withdraws [action] cancel branch → Preceded past cancel branch

/-- The INVITEs of the CANCELs that an operation sends have had a provisional response. -/
def WithdrawsRinging [UserAgentHost Host] (past : List (UserAgent Host × Op))
    (moment : UserAgent Host × Op) : Prop :=
  ∀ cancel branch, Withdraws (moment.1.asked moment.2) cancel branch →
    Proceeded (past ++ [moment]) branch

/-- The INVITEs of some CANCELs that an operation sends have had no final response. -/
def WithdrawsUnanswered (which : UserAgent Host → Op → List Action)
    (past : List (UserAgent Host × Op)) (moment : UserAgent Host × Op) : Prop :=
  ∀ cancel branch, Withdraws (which moment.1 moment.2) cancel branch →
    ¬ Resolved (past ++ [moment]) branch

/-- Every CANCEL is legitimate: it has the headers of an INVITE that was sent before it and has had
a provisional response, which has had no final response either for some CANCELs, and it is the only
one of its INVITE. -/
structure Legitimate [UserAgentHost Host] (which : UserAgent Host → Op → List Action)
    (history : List (UserAgent Host × Op)) (log : List Action) : Prop where
  sent : Each WithdrawsSent log
  ringing : Each WithdrawsRinging history
  unanswered : Each (WithdrawsUnanswered which) history
  once : ∀ branch, (cancelsOn branch (acts history)).length ≤ 1

theorem Withdraws.mono {actions more : List Action} (withdraws : Withdraws actions cancel branch)
    (within : ∀ action ∈ actions, action ∈ more) : Withdraws more cancel branch :=
  ⟨within _ withdraws.1, withdraws.2⟩

theorem Withdraws.of_append {first second : List Action}
    (withdraws : Withdraws (first ++ second) cancel branch) :
    Withdraws first cancel branch ∨ Withdraws second cancel branch :=
  (mem_append.mp withdraws.1).imp (⟨·, withdraws.2⟩) (⟨·, withdraws.2⟩)

theorem SendsOnly.not_withdraws (silent : SendsOnly (· ≠ ascii "CANCEL") added) :
    ¬ Withdraws added cancel branch :=
  fun withdraws => silent cancel (mem_filterMap.mpr ⟨_, withdraws.1, rfl⟩) withdraws.2

theorem Preceded.append {past : List Action} (preceded : Preceded past cancel branch)
    (more : List Action) : Preceded (past ++ more) cancel branch := by
  obtain ⟨invite, sent, isInvite, suits⟩ := preceded
  exact ⟨invite, mem_append_left _ sent, isInvite, suits⟩

/-! ### Where CANCELs come from -/

variable [UserAgentHost Host]

theorem CallStep.cancel_of_pending (step : CallStep cause added before after)
    {transaction : Transaction} (member : transaction ∈ after.transactions.values)
    (cancel : transaction.method = ascii "CANCEL") :
    (∃ old ∈ before.transactions.values, old.request = transaction.request ∧
      old.branch = transaction.branch) ∨
        Withdraws added transaction.request transaction.branch := by
  cases step with
  | registers side =>
    have call : transaction.onFinal.isRegister = false := by
      refine Bool.eq_false_iff.mpr fun register => ?_
      have method := Transaction.method_of_isRegister register
      rw [cancel] at method
      exact absurd method (by decide)
    exact Or.inl ⟨transaction, mem_values_of_half false side.frame.calls call member, rfl, rfl⟩
  | calls turn =>
    rcases turn.reworks.held transaction member with ⟨old, found, same⟩ | sent
    · exact Or.inl ⟨old, found, Packet.request.inj same⟩
    · exact Or.inr ⟨sent, cancel⟩

omit [UserAgentHost Host] in
/-- A CANCEL is sent by the call that waits, which goes on waiting. -/
theorem WaitStep.withdraws (step : WaitStep cause added before after)
    (withdraws : Withdraws added cancel branch) :
    ∃ waiting, before.waiting = some waiting ∧ waiting.cancel = cancel ∧ waiting.branch = branch ∧
      (waiting.provisional = true ∨ before.Rings cause waiting.id) ∧
        ∃ next, after.waiting = some next ∧ next.branch = branch := by
  cases step with
  | rests silent => exact absurd withdraws silent.not_withdraws
  | notes silent => exact absurd withdraws silent.not_withdraws
  | asks silent => exact absurd withdraws silent.not_withdraws
  | invites silent => exact absurd withdraws silent.not_withdraws
  | @cancels waiting sent _ waits due next =>
    rw [sent] at withdraws
    have same := mem_singleton.mp withdraws.1
    injection same with same
    obtain ⟨rfl, rfl⟩ := Packet.request.inj same
    exact ⟨waiting, waits, rfl, rfl, due.imp And.left And.left, _, next, rfl⟩

/-! ### CANCELs have their INVITEs -/

/-- The CANCELs that were sent, are pending or may still come have their INVITEs. -/
structure UserAgent.Follows (agent : UserAgent Host) : Prop where
  waiting : ∀ waiting, agent.waiting = some waiting →
    Preceded agent.log waiting.cancel waiting.branch
  pending : ∀ transaction ∈ agent.transactions.values, transaction.method = ascii "CANCEL" →
    Preceded agent.log transaction.request transaction.branch
  each : Each WithdrawsSent agent.log

omit [UserAgentHost Host] in
theorem UserAgent.Follows.log_append (follows : agent.Follows)
    (preceded : ∀ cancel branch, Withdraws added cancel branch → Preceded agent.log cancel branch) :
    Each WithdrawsSent (agent.log ++ added) := by
  refine follows.each.append (.of_forall fun action member past cancel branch withdraws => ?_)
  refine (preceded cancel branch (withdraws.mono fun other same => ?_)).append past
  exact mem_singleton.mp same ▸ member

theorem UserAgent.Follows.retransmit (follows : agent.Follows) (now : Time) :
    (agent.retransmit now).Follows := by
  have log := agent.retransmit_log now
  refine ⟨fun waiting waits => ?_, fun transaction member cancel => ?_, ?_⟩
  · have before : agent.waiting = some waiting := by
      obtain ⟨host, equal⟩ := agent.retransmit_eq now
      rw [equal] at waits
      exact waits
    rw [log]
    exact (follows.waiting waiting before).append _
  · obtain ⟨old, pending, rfl⟩ := (mem_retransmit agent now).mp member
    obtain ⟨request, branch⟩ := Packet.request.inj (old.backOff_packet now)
    unfold Transaction.method at cancel
    rw [request] at cancel
    rw [log, request, branch]
    exact (follows.pending old pending cancel).append _
  · rw [log]
    refine follows.log_append fun cancel branch withdraws => ?_
    obtain ⟨transaction, due, same⟩ := mem_map.mp withdraws.1
    injection same with same
    obtain ⟨rfl, rfl⟩ := Packet.request.inj same
    exact follows.pending transaction (mem_filter.mp due).1 withdraws.2

theorem CallStep.follows (step : CallStep cause added before after) (linked : before.Linked)
    (follows : before.Follows) : after.Follows := by
  have log := step.log
  have preceded (cancel : Request) (branch : Bytes) (withdraws : Withdraws added cancel branch) :
      Preceded before.log cancel branch := by
    obtain ⟨waiting, waits, rfl, rfl, -⟩ := (step.waitStep linked).withdraws withdraws
    exact follows.waiting waiting waits
  refine ⟨fun waiting waits => ?_, fun transaction member cancel => ?_, ?_⟩
  · rw [log]
    cases step.waitStep linked with
    | rests _ _ same => exact (follows.waiting waiting (same waiting waits)).append _
    | notes _ _ earlier _ _ next =>
      cases next.symm.trans waits
      exact (follows.waiting _ earlier).append _
    | asks _ _ earlier _ next =>
      cases next.symm.trans waits
      exact (follows.waiting _ earlier).append _
    | cancels _ _ earlier _ next =>
      cases next.symm.trans waits
      exact (follows.waiting _ earlier).append _
    | @invites _ _ invite _ _ _ _ sent method suits _ _ _ next =>
      cases next.symm.trans waits
      exact ⟨invite, mem_append_right _ sent, method, suits⟩
  · rw [log]
    rcases step.cancel_of_pending member cancel with ⟨old, pending, request, branch⟩ | withdraws
    · unfold Transaction.method at cancel
      rw [← request] at cancel
      rw [← request, ← branch]
      exact (follows.pending old pending cancel).append _
    · exact (preceded _ _ withdraws).append _
  · rw [log]
    exact follows.log_append preceded

/-! ### CANCELs are in time -/

/-- The CANCELs of an operation so far are in time, with the INVITEs that proceeded and those that
were answered. -/
structure Timely (proceeded resolved : Bytes → Prop) (added : List Action)
    (agent : UserAgent Host) : Prop where
  rang : ∀ waiting, agent.waiting = some waiting → waiting.provisional = true →
    proceeded waiting.branch
  sent : ∀ transaction ∈ agent.transactions.values, transaction.method = ascii "CANCEL" →
    proceeded transaction.branch
  pending : ∀ context recipient, Awaits agent.transactions context recipient →
    agent.Drew context.branch ∧ ¬ resolved context.branch
  drawn : ∀ branch, resolved branch → agent.Drew branch
  cancels : ∀ cancel branch, Withdraws added cancel branch → proceeded branch ∧ ¬ resolved branch

namespace Timely

variable {proceeded resolved : Bytes → Prop} {added : List Action} {agent : UserAgent Host}

omit [UserAgentHost Host]

theorem mono (timely : Timely proceeded resolved added agent) {more answered : Bytes → Prop}
    (also : ∀ branch, proceeded branch → more branch)
    (same : ∀ branch, answered branch ↔ resolved branch) : Timely more answered added agent := by
  obtain rfl : answered = resolved := funext fun branch => propext (same branch)
  exact { timely with
    rang := fun waiting waits heard => also _ (timely.rang waiting waits heard)
    sent := fun transaction member cancel => also _ (timely.sent transaction member cancel)
    cancels := fun cancel branch withdraws =>
      (timely.cancels cancel branch withdraws).imp_left (also branch) }

/-- An INVITE that is not pending any more is answered. -/
theorem resolves (timely : Timely proceeded resolved added agent) (drew : agent.Drew branch)
    (lapsed : ∀ context recipient, Awaits agent.transactions context recipient →
      context.branch ≠ branch)
    (silent : ∀ cancel other, Withdraws added cancel other → other ≠ branch) :
    Timely proceeded (fun other => resolved other ∨ other = branch) added agent :=
  { timely with
    pending := fun context recipient awaits =>
      ⟨(timely.pending context recipient awaits).1, fun answered => answered.elim
        (timely.pending context recipient awaits).2 (lapsed context recipient awaits)⟩
    drawn := fun other answered => answered.elim (timely.drawn other) fun same => same ▸ drew
    cancels := fun cancel other withdraws =>
      ⟨(timely.cancels cancel other withdraws).1, fun answered => answered.elim
        (timely.cancels cancel other withdraws).2 (silent cancel other withdraws)⟩ }

theorem rests (timely : Timely proceeded resolved added agent) :
    Timely proceeded resolved [] agent :=
  { timely with cancels := fun _ _ withdraws => absurd withdraws.1 not_mem_nil }

end Timely

theorem Timely.retransmit {proceeded resolved : Bytes → Prop}
    (timely : Timely proceeded resolved added agent) (now : Time) :
    Timely proceeded resolved added (agent.retransmit now) := by
  have sent (transaction : Transaction)
      (member : transaction ∈ (agent.retransmit now).transactions.values)
      (cancel : transaction.method = ascii "CANCEL") : proceeded transaction.branch := by
    obtain ⟨old, pending, rfl⟩ := (mem_retransmit agent now).mp member
    obtain ⟨request, branch⟩ := Packet.request.inj (old.backOff_packet now)
    unfold Transaction.method at cancel
    rw [request] at cancel
    rw [branch]
    exact timely.sent old pending cancel
  obtain ⟨host, equal⟩ := agent.retransmit_eq now
  rw [equal] at sent ⊢
  exact { timely with
    sent
    pending := fun context recipient awaits =>
      timely.pending context recipient ((Awaits.change now).mp awaits) }

omit [UserAgentHost Host] in
/-- While no two calls have the same id, the INVITE that a call hears from is its own. -/
theorem UserAgent.Rings.own {waiting : Waiting} (rings : agent.Rings cause waiting.id)
    (waits : agent.waiting = some waiting) (kin : Kin callId agent)
    (names : (agent.marks callId).Nodup) :
    ∃ response transaction context, agent.Heard cause response transaction ∧
      response.status < 200 ∧ transaction.onFinal = .invite context ∧
        context.branch = waiting.branch := by
  obtain ⟨response, transaction, heard, provisional, own⟩ := rings
  obtain ⟨call, present, -, rfl⟩ := waiting_eq_some_iff.mp waits
  have fits := transaction.fits
  cases handler : transaction.onFinal with
  | register =>
    rw [handler] at fits
    exact nomatch own.symm.trans fits.2.2.1
  | ignore =>
    rw [handler] at fits
    exact nomatch own.symm.trans fits.2.1
  | invite context =>
    rw [handler] at fits
    have named := Option.some.inj (own.symm.trans fits.2.2.2.2.2.2.1)
    exact ⟨response, transaction, context, heard, provisional, handler,
      (kin.own names call context _ present (Awaits.of_pending heard.pending handler) named.symm).1⟩

theorem CallStep.timely {more : List Action} {proceeded resolved : Bytes → Prop}
    (step : CallStep cause more before after) (linked : before.Linked) (kin : Kin callId before)
    (names : (before.marks callId).Nodup) (distinct : after.random.Distinct after.draws)
    (heeds : ∀ response transaction context, before.Heard cause response transaction →
      response.status < 200 → transaction.onFinal = .invite context → proceeded context.branch)
    (timely : Timely proceeded resolved added before) :
    Timely proceeded resolved (added ++ more) after := by
  obtain ⟨random, draws⟩ := step.draws
  have rang {waiting : Waiting} (waits : before.waiting = some waiting)
      (rings : before.Rings cause waiting.id) : proceeded waiting.branch := by
    obtain ⟨response, transaction, context, heard, provisional, invites, same⟩ :=
      rings.own waits kin names
    exact same ▸ heeds response transaction context heard provisional invites
  have withdrawn (cancel : Request) (branch : Bytes) (withdraws : Withdraws more cancel branch) :
      proceeded branch ∧ ¬ resolved branch := by
    obtain ⟨waiting, waits, -, rfl, due, -⟩ := (step.waitStep linked).withdraws withdraws
    obtain ⟨context, recipient, awaits, same, -⟩ := linked.awaits_of_waiting waits
    exact ⟨due.elim (timely.rang waiting waits) (rang waits),
      same ▸ (timely.pending context recipient awaits).2⟩
  have old {context : InviteContext} {recipient : Bytes}
      (awaits : Awaits before.transactions context recipient) :
      after.Drew context.branch ∧ ¬ resolved context.branch :=
    (timely.pending context recipient awaits).imp_left fun drew => drew.mono random draws
  refine ⟨fun waiting waits heard => ?_, fun transaction member cancel => ?_,
    fun context recipient awaits => ?_, fun branch answered =>
      (timely.drawn branch answered).mono random draws, fun cancel branch withdraws =>
        withdraws.of_append.elim (timely.cancels cancel branch) (withdrawn cancel branch)⟩
  · cases step.waitStep linked with
    | rests _ _ same => exact timely.rang waiting (same waiting waits) heard
    | notes _ _ earlier rings _ next =>
      have known := rang earlier rings
      cases next.symm.trans waits
      exact known
    | asks _ _ earlier _ next =>
      have known := timely.rang _ earlier
      cases next.symm.trans waits
      exact known heard
    | cancels _ _ earlier due next =>
      have known := due.elim (fun both => timely.rang _ earlier both.1) fun both =>
        rang earlier both.1
      cases next.symm.trans waits
      exact known
    | invites _ _ _ _ _ _ _ unheard _ _ next =>
      cases next.symm.trans waits
      exact nomatch unheard.symm.trans heard
  · rcases step.cancel_of_pending member cancel with ⟨old, pending, request, branch⟩ | withdraws
    · unfold Transaction.method at cancel
      rw [← request] at cancel
      rw [← branch]
      exact timely.sent old pending cancel
    · exact (withdrawn _ _ withdraws).1
  · cases step.waitStep linked with
    | rests _ fewer => exact old (fewer context recipient awaits)
    | notes _ fewer => exact old (fewer context recipient awaits)
    | asks _ fewer => exact old (fewer context recipient awaits)
    | cancels _ fewer => exact old (fewer context recipient awaits)
    | @invites waiting draw _ _ drawn branch fewer =>
      rcases fewer context recipient awaits with earlier | new
      · exact old earlier
      · rw [new, branch]
        refine ⟨⟨draw, drawn.2, random ▸ rfl⟩, fun answered => ?_⟩
        exact not_drew distinct random drawn (timely.drawn _ answered)

/-! ### Operations -/

section Moments

variable {history : List (UserAgent Host × Op)} {agent : UserAgent Host} {op : Op}

/-- The INVITEs that are answered are not counted yet. -/
theorem Timely.proceeds (timely : Timely (Proceeded history) (Resolved history) [] agent)
    (linked : agent.Linked) (kin : Kin callId agent)
    (names : ((agent.step op).marks callId).Nodup)
    (distinct : (agent.step op).random.Distinct (agent.step op).draws) :
    Timely (Proceeded (history ++ [(agent, op)])) (Resolved history) (agent.started op)
      (agent.step op) := by
  have more : Timely (Proceeded (history ++ [(agent, op)])) (Resolved history) [] agent :=
    timely.mono (fun _ proceeded => proceeded_concat.mpr (Or.inl proceeded)) fun _ => Iff.rfl
  rcases CallSteps.step agent op with
    ⟨datagram, now, heard, _, rfl, parsed, step⟩ | ⟨unheard, _, steps⟩
  · rw [(CallSteps.single step).started]
    refine step.timely linked kin (marks_nodup names step.log) distinct ?_ more
    intro response transaction context hears provisional invites
    cases hears.message
    have answers : agent.Answers datagram heard transaction := hears.answers parsed
    have told := hears_eq_some_iff.mpr ⟨datagram, now, transaction, rfl, answers, invites⟩
    exact proceeded_concat.mpr (Or.inr ⟨context, heard, told, provisional, rfl⟩)
  · let invariant (added : List Action) (later : UserAgent Host) : Prop :=
      later.Linked ∧ Kin callId later ∧ ((later.marks callId).Nodup →
        later.random.Distinct later.draws →
          Timely (Proceeded (history ++ [(agent, op)])) (Resolved history) added later)
    have ready : invariant [] (agent.resending op) := by
      refine resending_keeps (invariant []) ?_ ⟨linked, kin, fun _ _ => more⟩ op
      rintro later now ⟨linked, kin, timely⟩
      refine ⟨linked.retransmit now, kin.retransmit now, fun names distinct => ?_⟩
      refine (timely (marks_nodup names (later.retransmit_log now)) ?_).retransmit now
      obtain ⟨host, equal⟩ := later.retransmit_eq now
      rw [equal] at distinct
      exact distinct
    rw [steps.started]
    refine (steps.record invariant ?_ ready).2.2 names distinct
    rintro past added before after step ⟨linked, kin, timely⟩
    refine ⟨step.linked linked, step.kin linked kin, fun names distinct => ?_⟩
    have early := marks_nodup names step.log
    refine step.timely linked kin early distinct
      (fun _ _ _ hears => absurd hears.message (unheard _)) (timely early ?_)
    obtain ⟨random, draws⟩ := step.draws
    rw [random] at distinct
    exact distinct.mono draws

omit [UserAgentHost Host] in
/-- An INVITE that is answered is not pending any more. -/
theorem UserAgent.Replaces.lapsed {agent : UserAgent Host} {transaction : Transaction}
    {context other : InviteContext} {recipient : Bytes}
    (replaces : agent.Replaces after transaction added)
    (invites : transaction.onFinal = .invite context) (drew : agent.Drew context.branch)
    (random : after.random = agent.random) (distinct : after.random.Distinct after.draws)
    (awaits : Awaits after.transactions other recipient) : other.branch ≠ context.branch := by
  rcases replaces with equal | ⟨next, equal, -, ignored | ⟨fresh, draw, invited, branch, drawn⟩⟩
  · rw [equal] at awaits
    exact ((Awaits.erase_invite invites).mp awaits).2
  · rw [equal] at awaits
    exact ((Awaits.erase_invite invites).mp ((Awaits.put_ignored ignored).mp awaits)).2
  · rw [equal] at awaits
    rcases (Awaits.put_invite invited).mp awaits with ⟨rfl, -⟩ | ⟨old, -⟩
    · intro same
      rw [← same, branch] at drew
      exact not_drew distinct random drawn drew
    · exact ((Awaits.erase_invite invites).mp old).2

theorem Timely.step (timely : Timely (Proceeded history) (Resolved history) [] agent)
    (linked : agent.Linked) (kin : Kin callId agent)
    (names : ((agent.step op).marks callId).Nodup)
    (distinct : (agent.step op).random.Distinct (agent.step op).draws) :
    Timely (Proceeded (history ++ [(agent, op)])) (Resolved (history ++ [(agent, op)]))
      (agent.started op) (agent.step op) := by
  have kept := timely.proceeds linked kin names distinct
  by_cases answered : ∃ context response, agent.hears op = some (context, response) ∧
      200 ≤ response.status
  · obtain ⟨context, response, hears, final⟩ := answered
    obtain ⟨datagram, now, transaction, rfl, answers, invites⟩ :=
      hears_eq_some_iff.mp hears
    obtain ⟨added, turn, replaces⟩ := CallTurn.onConclusion answers final invites now
    have step := CallStep.calls turn
    obtain ⟨random, draws⟩ := step.draws
    have drew := (timely.pending _ _ (Awaits.of_pending answers.pending invites)).1
    have lapsed (other : InviteContext) (recipient : Bytes)
        (awaits : Awaits (agent.step (.message datagram now)).transactions other recipient) :
        other.branch ≠ context.branch :=
      replaces.lapsed invites drew random distinct awaits
    refine (kept.resolves (drew.mono random draws) lapsed fun cancel other withdraws => ?_).mono
      (fun _ => id) fun branch => ?_
    · rw [(CallSteps.single step).started] at withdraws
      obtain ⟨-, -, -, -, -, next, waits, rfl⟩ := (step.waitStep linked).withdraws withdraws
      obtain ⟨found, recipient, awaits, same, -⟩ := (step.linked linked).awaits_of_waiting waits
      exact same ▸ lapsed found recipient awaits
    · rw [resolved_concat]
      refine or_congr_right ⟨?_, fun same => ⟨context, response, hears, final, same.symm⟩⟩
      rintro ⟨_, _, again, -, rfl⟩
      cases hears.symm.trans again
      rfl
  · refine kept.mono (fun _ => id) fun branch => ?_
    rw [resolved_concat]
    exact or_iff_left fun ⟨context, response, hears, final, _⟩ =>
      answered ⟨context, response, hears, final⟩

end Moments

/-! ### Whole runs -/

/-- What is known of the CANCELs after a stretch of a run. -/
structure Withdrawals (history : List (UserAgent Host × Op)) (agent : UserAgent Host) : Prop where
  linked : agent.Linked
  kin : Kin callId agent
  follows : agent.Follows
  once : agent.random.Distinct agent.draws →
    Pursuit (fun _ => False) (fun _ => False) (acts history) agent
  timely : (agent.marks callId).Nodup → agent.random.Distinct agent.draws →
    Timely (Proceeded history) (Resolved history) [] agent
  ringing : (agent.marks callId).Nodup → agent.random.Distinct agent.draws →
    Each WithdrawsRinging history
  unanswered : (agent.marks callId).Nodup → agent.random.Distinct agent.draws →
    Each (WithdrawsUnanswered UserAgent.started) history

namespace Withdrawals

variable {history : List (UserAgent Host × Op)} {agent : UserAgent Host}

theorem create (config : UserAgentConfig) (host : Host) (random : Random) :
    Withdrawals [] (UserAgent.create config host random) where
  linked := .of_idle rfl
  kin := Kin.create config host random callId
  follows := ⟨fun _ waits => (nomatch waits), fun _ member => (nomatch member),
    .of_forall fun _ member => nomatch member⟩
  once := fun _ => (Pursuit.create config host random).congr
    (fun _ => ⟨False.elim, fun ⟨_, member, _⟩ => nomatch member⟩)
    fun _ => ⟨False.elim, fun ⟨_, member, _⟩ => nomatch member⟩
  timely := fun _ _ => ⟨fun _ waits => (nomatch waits), fun _ member => (nomatch member),
    fun _ _ ⟨_, pending, _⟩ => absurd pending not_mem_nil,
    fun _ ⟨_, member, _⟩ => (nomatch member), fun _ _ withdraws => nomatch withdraws.1⟩
  ringing := fun _ _ => .of_forall fun _ member => nomatch member
  unanswered := fun _ _ => .of_forall fun _ member => nomatch member

theorem step (withdrawals : Withdrawals history agent) (op : Op) :
    Withdrawals (history ++ [(agent, op)]) (agent.step op) := by
  have linked := withdrawals.linked
  have kin := withdrawals.kin
  obtain ⟨laterLinked, laterKin, laterFollows⟩ :
      (agent.step op).Linked ∧ Kin callId (agent.step op) ∧ (agent.step op).Follows := by
    let invariant (agent : UserAgent Host) : Prop :=
      agent.Linked ∧ Kin callId agent ∧ agent.Follows
    have resent : ∀ (agent : UserAgent Host) (now : Time), invariant agent →
        invariant (agent.retransmit now) :=
      fun _ now ⟨linked, kin, follows⟩ =>
        ⟨linked.retransmit now, kin.retransmit now, follows.retransmit now⟩
    refine step_keeps resent ?_ ⟨linked, kin, withdrawals.follows⟩ op
    rintro _ _ _ _ step ⟨linked, kin, follows⟩
    exact ⟨step.linked linked, step.kin linked kin, step.follows linked follows⟩
  have early (names : ((agent.step op).marks callId).Nodup)
      (distinct : (agent.step op).random.Distinct (agent.step op).draws) :
      (agent.marks callId).Nodup ∧ agent.random.Distinct agent.draws :=
    ⟨marks_nodup names (agent.step_log op), .of_step distinct⟩
  have timely (names : ((agent.step op).marks callId).Nodup)
      (distinct : (agent.step op).random.Distinct (agent.step op).draws) :
      Timely (Proceeded (history ++ [(agent, op)])) (Resolved (history ++ [(agent, op)]))
        (agent.started op) (agent.step op) :=
    let ⟨before, drawn⟩ := early names distinct
    (withdrawals.timely before drawn).step linked kin names distinct
  refine ⟨laterLinked, laterKin, laterFollows, fun distinct => ?_,
    fun names distinct => (timely names distinct).rests, fun names distinct => ?_,
    fun names distinct => ?_⟩
  · rw [acts_concat]
    exact (withdrawals.once (.of_step distinct)).others linked op distinct
  · obtain ⟨before, drawn⟩ := early names distinct
    refine (withdrawals.ringing before drawn).concat fun cancel branch withdraws => ?_
    have asked : Withdraws (agent.resent op ++ agent.started op) cancel branch :=
      agent.asked_eq op ▸ withdraws
    rcases asked.of_append with ⟨again, isCancel⟩ | new
    · -- what is sent again was sent when its INVITE had proceeded
      obtain ⟨transaction, pending, same⟩ := pending_of_resent again
      injection same with same
      obtain ⟨rfl, rfl⟩ := Packet.request.inj same
      exact proceeded_concat.mpr (Or.inl
        ((withdrawals.timely before drawn).sent transaction pending isCancel))
    · exact ((timely names distinct).cancels cancel branch new).1
  · obtain ⟨before, drawn⟩ := early names distinct
    exact (withdrawals.unanswered before drawn).concat fun cancel branch new =>
      ((timely names distinct).cancels cancel branch new).2

end Withdrawals

/-- Every CANCEL is legitimate. In every run in which the branches drawn differ and no two calls
have the same id, each CANCEL, sent again or not, has the headers of an INVITE that was sent before
it and has had a provisional response; no final response has come when the CANCEL is first sent; and
no INVITE has two CANCELs. -/
theorem cancels_legitimate (config : UserAgentConfig) (host : Host) (random : Random)
    (ops : List Op)
    (distinct : random.Distinct
      (run UserAgent.step (UserAgent.create config host random) ops).draws)
    (names : ((run UserAgent.step (UserAgent.create config host random) ops).marks
      callId).Nodup) :
    Legitimate UserAgent.started
      (moments UserAgent.step (UserAgent.create config host random) ops)
      (run UserAgent.step (UserAgent.create config host random) ops).log := by
  have withdrawals := moments_keep Withdrawals (Withdrawals.create config host random)
    (fun _ _ op withdrawals => withdrawals.step op) ops
  have same : (run UserAgent.step (UserAgent.create config host random) ops).random = random :=
    run_random _ ops
  have drawn : (run UserAgent.step (UserAgent.create config host random) ops).random.Distinct
      (run UserAgent.step (UserAgent.create config host random) ops).draws := by
    rw [same]
    exact distinct
  exact ⟨withdrawals.follows.each, withdrawals.ringing names drawn,
    withdrawals.unanswered names drawn, (withdrawals.once drawn).once⟩

/-- A call that is hung up while it rings. -/
theorem hungUpRinging_legitimate :
    Legitimate UserAgent.started
      (moments UserAgent.step UserAgent.ideal
        [.call 1 (ascii "101") 0, .message dialledRinging 1, .hangup 1 2])
      (run UserAgent.step UserAgent.ideal
        [.call 1 (ascii "101") 0, .message dialledRinging 1, .hangup 1 2]).log :=
  cancels_legitimate _ _ _ _ (Random.counting_distinct _) (by decide +kernel)

/-! ### Late retransmissions and ids that are used twice -/

omit [UserAgentHost Host] in
theorem exists_withdraws {actions : List Action} (cancels : cancelsOn branch actions ≠ []) :
    ∃ cancel, Withdraws actions cancel branch := by
  obtain ⟨cancel, member⟩ := exists_mem_of_ne_nil _ cancels
  obtain ⟨action, sent, seen⟩ := mem_filterMap.mp member
  refine ⟨cancel, ?_⟩
  match action with
  | .sendSip (.request request own) =>
    obtain ⟨⟨isCancel, rfl⟩, same⟩ := Option.ite_none_right_eq_some.mp seen
    cases same
    exact ⟨sent, isCancel⟩

namespace Legitimate

variable {which : UserAgent Host → Op → List Action} {start : UserAgent Host} {ops : List Op}
  {op : Op} {log : List Action} {branch : Bytes}

theorem proceeded_last
    (legitimate : Legitimate which (moments UserAgent.step start (ops ++ [op])) log)
    (cancels : cancelsOn branch ((run UserAgent.step start ops).asked op) ≠ []) :
    Proceeded (moments UserAgent.step start (ops ++ [op])) branch := by
  obtain ⟨cancel, withdraws⟩ := exists_withdraws cancels
  rw [moments_concat] at legitimate ⊢
  exact legitimate.ringing _ _ [] rfl cancel branch withdraws

theorem not_resolved_last
    (legitimate : Legitimate which (moments UserAgent.step start (ops ++ [op])) log)
    (cancels : cancelsOn branch (which (run UserAgent.step start ops) op) ≠ []) :
    ¬ Resolved (moments UserAgent.step start (ops ++ [op])) branch := by
  obtain ⟨cancel, withdraws⟩ := exists_withdraws cancels
  rw [moments_concat] at legitimate ⊢
  exact legitimate.unanswered _ _ [] rfl cancel branch withdraws

end Legitimate

/-- The dialled INVITE is terminated. -/
def dialledTerminated : Bytes := dialledAnswered "487 Request Terminated" "" ""

/-- The far end hangs up before it has answered the dialled INVITE. -/
def dialledHungUp : Bytes :=
  ascii "BYE sip:100@10.0.0.9:5062 SIP/2.0\r\n" ++
    ascii "Via: SIP/2.0/UDP 10.0.0.1:5060;branch=z9hG4bKbye\r\n" ++
    ascii "From: <sip:101@10.0.0.1>;tag=s\r\n" ++
    ascii "To: <sip:100@10.0.0.1>;tag=3\r\n" ++
    ascii "Call-ID: 2@ketphone\r\n" ++
    ascii "CSeq: 1 BYE\r\n\r\n"

/-- The INVITE of a call that was hung up is terminated before its CANCEL is answered. -/
def terminatedFirst : List Op :=
  [.call 1 (ascii "101") 0, .message dialledRinging 1, .hangup 1 2, .message dialledTerminated 3]

/-- A call ends while its INVITE is pending, and a second call with its id is hung up. -/
def dialledAlike : List Op :=
  [.call 1 (ascii "101") 0, .message dialledHungUp 1, .call 1 (ascii "101") 2, .hangup 1 3]

/-- A CANCEL that is not answered is sent again although its INVITE is; and a provisional response
to the INVITE of a call sends the CANCEL of another one with the same id. -/
theorem cancels_not_legitimate :
    ¬ Legitimate UserAgent.asked
        (moments UserAgent.step UserAgent.ideal (terminatedFirst ++ [.timer (seconds 1)]))
        (run UserAgent.step UserAgent.ideal (terminatedFirst ++ [.timer (seconds 1)])).log ∧
      ¬ Legitimate UserAgent.started
        (moments UserAgent.step UserAgent.ideal (dialledAlike ++ [.message dialledRinging 4]))
        (run UserAgent.step UserAgent.ideal (dialledAlike ++ [.message dialledRinging 4])).log := by
  constructor
  · intro legitimate
    have waits : ¬ Resolved
        (moments UserAgent.step UserAgent.ideal (terminatedFirst ++ [.timer (seconds 1)]))
        (ascii "z9hG4bK5") :=
      legitimate.not_resolved_last (by decide +kernel)
    exact waits (by decide +kernel)
  · intro legitimate
    have rang : Proceeded
        (moments UserAgent.step UserAgent.ideal (dialledAlike ++ [.message dialledRinging 4]))
        (ascii "z9hG4bK9") :=
      legitimate.proceeded_last (by decide +kernel)
    exact absurd rang (by decide +kernel)

end KetPhone.Core
