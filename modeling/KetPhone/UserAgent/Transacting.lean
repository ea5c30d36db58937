/-
This file keeps account of the transactions the user agent starts. A request is
told from the others by its branch and its method. Every function that starts
requests puts each of them on a branch drawn for it, but for the CANCEL, which
goes out on the branch of its INVITE; and what is pending afterwards was pending
before or was sent in between.
-/

import KetPhone.UserAgent.CallSteps
import Mathlib.Data.List.Nodup

namespace KetPhone.Core

open Sip List OrderedMap UserAgent

variable {Host : Type}
variable (agent : UserAgent Host) (op : Op)

/-! ### Tickets -/

def Transaction.ticket (transaction : Transaction) : Bytes × Bytes :=
  (transaction.branch, transaction.method)

theorem tickets_append (added more : List Action) :
    tickets (added ++ more) = tickets added ++ tickets more :=
  filterMap_append

theorem Transaction.packet_ticket (transaction : Transaction) :
    transaction.packet.ticket = some transaction.ticket := by
  have other : transaction.method ≠ ascii "ACK" := by
    cases side : transaction.onFinal.isRegister with
    | true =>
      rw [method_of_isRegister side]
      decide
    | false =>
      rcases method_of_not_isRegister side with equal | equal | equal <;> rw [equal] <;> decide
  exact if_neg other

theorem Transaction.key_of_ticket {first second : Transaction}
    (same : first.ticket = second.ticket) : first.key = second.key := by
  show transactionKey first.ticket.1 first.ticket.2 = _
  rw [same]
  rfl

theorem tickets_cons (transaction : Transaction) (rest : List Action) :
    tickets (.sendSip transaction.packet :: rest) = transaction.ticket :: tickets rest :=
  filterMap_cons_some transaction.packet_ticket

theorem tickets_cons_ack (ack : Ack) (rest : List Action) :
    tickets (.sendSip ack.packet :: rest) = tickets rest :=
  filterMap_cons_none (if_pos ack.isAck)

theorem Call.farewell_tickets (call : Call) (reason : EndReason) (status : Int) :
    tickets (call.farewell reason status) = [] := by
  unfold Call.farewell
  split <;> rfl

/-! ### What is started -/

/-- Between two states the requests that were started are on branches of their own, but for CANCELs,
and nothing else became pending. -/
structure Launches (before after : UserAgent Host) (added : List Action) : Prop where
  random : after.random = before.random
  draws : before.draws ≤ after.draws
  log : after.log = before.log ++ added
  fresh : ∀ ticket ∈ tickets added, ticket.2 = ascii "CANCEL" ∨ Fresh before after ticket.1
  apart : before.random.Distinct after.draws →
    ((tickets added).filter fun ticket => ticket.2 ≠ ascii "CANCEL").Nodup
  held : ∀ transaction ∈ after.transactions.values,
    (∃ old ∈ before.transactions.values, old.packet = transaction.packet) ∨
      .sendSip transaction.packet ∈ added

namespace Launches

variable {before middle after : UserAgent Host} {added more : List Action}

theorem refl : Launches agent agent [] where
  random := rfl
  draws := le_rfl
  log := (append_nil _).symm
  fresh := nofun
  apart := fun _ => nodup_nil
  held := fun transaction member => Or.inl ⟨transaction, member, rfl⟩

/-- At most one request is started. -/
theorem of_tickets (random : after.random = before.random) (draws : before.draws ≤ after.draws)
    (log : after.log = before.log ++ added)
    (started : tickets added = [] ∨ ∃ ticket, tickets added = [ticket] ∧
      (ticket.2 = ascii "CANCEL" ∨ Fresh before after ticket.1))
    (held : ∀ transaction ∈ after.transactions.values,
      (∃ old ∈ before.transactions.values, old.packet = transaction.packet) ∨
        .sendSip transaction.packet ∈ added) : Launches before after added := by
  refine ⟨random, draws, log, ?_, fun _ => ?_, held⟩
  · rcases started with nothing | ⟨ticket, one, fresh⟩
    · rw [nothing]
      exact nofun
    · rw [one]
      intro found member
      rw [mem_singleton.mp member]
      exact fresh
  · rcases started with nothing | ⟨ticket, one, -⟩
    · rw [nothing]
      exact nodup_nil
    · rw [one]
      exact (nodup_singleton _).filter _

/-- No request is started. -/
theorem silent (random : after.random = before.random) (draws : before.draws ≤ after.draws)
    (log : after.log = before.log ++ added) (unasked : tickets added = [])
    (held : ∀ transaction ∈ after.transactions.values,
      ∃ old ∈ before.transactions.values, old.packet = transaction.packet) :
    Launches before after added :=
  .of_tickets random draws log (Or.inl unasked) fun transaction member =>
    Or.inl (held transaction member)

theorem trans (first : Launches before middle added) (second : Launches middle after more) :
    Launches before after (added ++ more) := by
  have wider : ∀ ticket ∈ tickets more, ticket.2 = ascii "CANCEL" ∨ ∃ draw,
      (middle.draws ≤ draw ∧ draw < after.draws) ∧ ticket.1 = before.random.branch draw :=
    first.random ▸ second.fresh
  refine ⟨second.random.trans first.random, first.draws.trans second.draws, ?_, ?_, ?_, ?_⟩
  · rw [second.log, first.log, append_assoc]
  · intro ticket member
    rw [tickets_append, mem_append] at member
    rcases member with early | late
    · exact (first.fresh ticket early).imp_right fun ⟨draw, bounds, equal⟩ =>
        ⟨draw, ⟨bounds.1, bounds.2.trans_le second.draws⟩, equal⟩
    · exact (wider ticket late).imp_right fun ⟨draw, bounds, equal⟩ =>
        ⟨draw, ⟨first.draws.trans bounds.1, bounds.2⟩, equal⟩
  · intro distinct
    rw [tickets_append, filter_append]
    refine nodup_append'.mpr ⟨first.apart (distinct.mono second.draws),
      second.apart (first.random ▸ distinct), ?_⟩
    -- The draws of the first part are all before those of the second.
    intro ticket early late
    obtain ⟨inFirst, other⟩ := mem_filter.mp early
    obtain ⟨inSecond, -⟩ := mem_filter.mp late
    rw [decide_eq_true_iff] at other
    obtain ⟨draw, bounds, equal⟩ := (first.fresh ticket inFirst).resolve_left other
    obtain ⟨later, boundsLater, equalLater⟩ := (wider ticket inSecond).resolve_left other
    have same := distinct draw later (bounds.2.trans_le second.draws) boundsLater.2
      (equal.symm.trans equalLater)
    exact absurd bounds.2 (Nat.not_lt.mpr (same ▸ boundsLater.1))
  · intro transaction member
    rcases second.held transaction member with ⟨old, kept, packet⟩ | sent
    · rw [← packet]
      exact (first.held old kept).imp_right (mem_append_left _)
    · exact Or.inr (mem_append_right _ sent)

end Launches

/-! ### Steps -/

section Steps

variable [UserAgentHost Host] {cause : Cause} {before after : UserAgent Host} {added : List Action}

theorem RegisterSide.launches (side : RegisterSide before after) :
    ∃ added, Launches before after added := by
  induction side with
  | refl => exact ⟨_, .refl _⟩
  | @drawn after _ hypothesis =>
    obtain ⟨added, launches⟩ := hypothesis
    exact ⟨_, launches.trans (.silent rfl (Nat.le_succ _) (append_nil _).symm rfl
      fun transaction member => ⟨transaction, member, rfl⟩)⟩
  | close _ hypothesis => exact hypothesis.imp fun _ launches => { launches with }
  | setRegistration _ _ _ _ hypothesis => exact hypothesis.imp fun _ launches => { launches with }
  | report _ _ hypothesis =>
    obtain ⟨added, launches⟩ := hypothesis
    exact ⟨_, launches.trans (.silent rfl le_rfl rfl rfl
      fun transaction member => ⟨transaction, member, rfl⟩)⟩
  | erase _ _ _ hypothesis =>
    obtain ⟨added, launches⟩ := hypothesis
    exact ⟨added, { launches with
      held := fun transaction member => launches.held transaction (mem_of_mem_filter member) }⟩
  | @proceed _ old _ pending _ now hypothesis =>
    obtain ⟨added, launches⟩ := hypothesis
    refine ⟨added, { launches with held := fun transaction member => ?_ }⟩
    rcases mem_values_put.mp member with rfl | ⟨-, kept⟩
    · rw [old.proceed_packet now]
      exact launches.held old pending
    · exact launches.held transaction kept
  | @sendRegister after _ expires authorization now _ hypothesis =>
    obtain ⟨added, launches⟩ := hypothesis
    rw [sendRegister_eq]
    refine ⟨_, launches.trans (.of_tickets rfl (Nat.le_succ _) rfl (Or.inr ⟨_, rfl, Or.inr
      ⟨after.draws, ⟨le_rfl, Nat.lt_succ_self _⟩, rfl⟩⟩) fun transaction member => ?_)⟩
    rcases mem_values_put.mp member with rfl | ⟨-, old⟩
    · exact Or.inr (mem_singleton_self _)
    · exact Or.inl ⟨transaction, old, rfl⟩

/-- A turn starts at most one request. -/
theorem CallTurn.tickets_cases (turn : CallTurn cause added before after) :
    tickets added = [] ∨ ∃ ticket, tickets added = [ticket] ∧
      (ticket.2 = ascii "CANCEL" ∨ Fresh before after ticket.1) := by
  cases turn with
  | rests | replies | proceeds | concludes | rings | reinvites | confirms | accepts | givesUp =>
    exact Or.inl rfl
  | acknowledges => exact Or.inl (tickets_cons_ack _ _)
  | progresses _ _ _ _ _ _ told => rcases told with rfl | ⟨_, -, -, rfl⟩ <;> exact Or.inl rfl
  | forgets _ _ _ sent => rcases sent with rfl | ⟨_, rfl⟩ <;> exact Or.inl rfl
  | resends _ _ sent => rcases sent with rfl | ⟨_, -, rfl⟩ <;> exact Or.inl rfl
  | connects => exact Or.inl (tickets_cons_ack _ _)
  | hearsBye | hearsCancel | rejects | abandons | dialFails =>
    exact Or.inl (Call.farewell_tickets _ _ _)
  | fails _ _ _ acknowledged =>
    rcases acknowledged with rfl | ⟨_, rfl⟩ <;> exact Or.inl (Call.farewell_tickets _ _ _)
  | answerFails _ _ _ refused =>
    rcases refused with rfl | ⟨-, _, rfl⟩ <;> exact Or.inl (Call.farewell_tickets _ _ _)
  | cancelsLate _ _ _ _ _ _ _ _ begun =>
    exact Or.inr ⟨_, tickets_cons _ _, Or.inl (congrArg Request.method begun.request)⟩
  | cancels _ _ _ _ _ begun =>
    exact Or.inr ⟨_, tickets_cons _ _, Or.inl (congrArg Request.method begun.request)⟩
  | retries _ _ _ _ _ drawn begun =>
    exact Or.inr ⟨_, tickets_cons _ _, Or.inr ⟨_, drawn, begun.branch⟩⟩
  | dials _ _ _ drawn begun =>
    exact Or.inr ⟨_, tickets_cons _ _, Or.inr ⟨_, drawn, begun.branch⟩⟩
  | parts _ _ _ _ _ begun _ drawn =>
    obtain ⟨-, rfl, -⟩ := begun
    exact Or.inr ⟨_, (tickets_cons_ack _ _).trans (tickets_cons _ _), Or.inr drawn⟩
  | @drops _ _ _ _ bye _ call _ _ _ reason status _ _ _ _ _ refused begun _ drawn =>
    obtain ⟨-, rfl, -⟩ := begun
    have parting : tickets (.sendSip bye.packet :: call.farewell reason status) = [bye.ticket] := by
      rw [tickets_cons, Call.farewell_tickets]
    refine Or.inr ⟨bye.ticket, (tickets_cons_ack _ _).trans ?_, Or.inr drawn⟩
    rcases refused with rfl | ⟨_, rfl⟩ <;> exact parting
  | saysBye _ _ begun _ drawn =>
    obtain ⟨-, rfl, -⟩ := begun
    exact Or.inr ⟨_, (tickets_cons _ _).trans (congrArg _ (Call.farewell_tickets _ _ _)),
      Or.inr drawn⟩

theorem CallTurn.launches (turn : CallTurn cause added before after) :
    Launches before after added := by
  obtain ⟨_, _, does⟩ := turn.exists_does
  exact .of_tickets does.random does.draws does.log turn.tickets_cases turn.reworks.held

theorem CallStep.launches (step : CallStep cause added before after) :
    Launches before after added := by
  cases step with
  | registers side log =>
    obtain ⟨more, launches⟩ := side.launches
    exact append_cancel_left (log.symm.trans launches.log) ▸ launches
  | calls turn => exact turn.launches

theorem CallSteps.launches (steps : CallSteps cause added before after) :
    Launches before after added := by
  induction steps with
  | refl => exact .refl _
  | tail _ step hypothesis => exact hypothesis.trans step.launches

/-- What an operation starts once it has sent again what was due. -/
theorem Launches.step : ∃ added, Launches (agent.resending op) (agent.step op) added := by
  obtain ⟨added, steps⟩ := CallSteps.stepped agent op
  exact ⟨added, steps.launches⟩

theorem UserAgent.step_held :
    ∀ transaction ∈ (agent.step op).transactions.values,
      (∃ old ∈ agent.transactions.values, old.packet = transaction.packet) ∨
        .sendSip transaction.packet ∈ agent.asked op := by
  obtain ⟨added, starts⟩ := Launches.step agent op
  intro transaction pending
  rcases starts.held transaction pending with ⟨old, kept, same⟩ | sent
  · refine Or.inl ?_
    cases op with
    | timer now =>
      obtain ⟨older, before, rfl⟩ := (agent.mem_retransmit now).mp kept
      exact ⟨older, before, (older.backOff_packet now).symm.trans same⟩
    | _ => exact ⟨old, kept, same⟩
  · refine Or.inr ?_
    unfold asked
    rw [starts.log, agent.resending_log, append_assoc, drop_left]
    exact mem_append_right _ sent

end Steps

end KetPhone.Core
