/-
This file follows the clock of the user agent. The engine sleeps until
`next_deadline` and then calls `on_timer`; the two are written apart, so they have
to agree. Before that time `on_timer` does nothing at all. What it does when a
time has come is told here too: the transactions that are over are taken out, and
those that were REGISTERs are over for the registration as well.
-/

import KetPhone.UserAgent.Registering

namespace KetPhone.Core

open Sip List OrderedMap UserAgent

variable {Host : Type}

/-! ### The next deadline -/

/-- A time, if there is one, has not come. -/
def Later (now : Time) (next : Option Time) : Prop := ∀ time, next = some time → now < time

@[simp]
theorem later_none (now : Time) : Later now none := fun _ absent => nomatch absent

@[simp]
theorem later_some (now time : Time) : Later now (some time) ↔ now < time := by
  simp [Later]

/-- Nothing is due: no transaction, no wait for an ACK and no refresh. -/
structure UserAgent.Asleep (agent : UserAgent Host) (now : Time) : Prop where
  transactions : ∀ transaction ∈ agent.transactions.values, now < transaction.deadline ∧
    (transaction.retransmitting = true → now < transaction.retransmitAt)
  answering : ∀ call, agent.current = some call → call.state = .answering →
    now < call.resendAt ∧ now < call.ackDeadline
  attempt : agent.registration.wanted = true → Later now agent.registration.nextAttempt

namespace UserAgent

variable (now : Time) (next : Option Time)

@[simp]
theorem later_consider (time : Time) :
    Later now (consider next time) ↔ Later now next ∧ now < time := by
  cases next with
  | none => simp [consider]
  | some earliest =>
    show Later now (if time < earliest then some time else some earliest) ↔ _
    rw [later_some]
    split
    next before =>
      rw [later_some]
      exact ⟨fun early => ⟨Int.lt_trans early before, early⟩, And.right⟩
    next notBefore =>
      rw [later_some]
      exact ⟨fun early => ⟨early, Int.lt_of_lt_of_le early (Int.not_lt.mp notBefore)⟩, And.left⟩

theorem later_considerTransaction (transaction : Transaction) :
    Later now (considerTransaction next transaction) ↔ Later now next ∧
      now < transaction.deadline ∧
        (transaction.retransmitting = true → now < transaction.retransmitAt) := by
  unfold considerTransaction
  dsimp only
  split
  next again => simp [again, and_assoc]
  next silent => simp [silent]

theorem later_considerCall (current : Option Call) :
    Later now (considerCall next current) ↔ Later now next ∧
      ∀ call, current = some call → call.state = .answering →
        now < call.resendAt ∧ now < call.ackDeadline := by
  match current with
  | none => simp [considerCall]
  | some call =>
    simp only [considerCall, Option.some.injEq, forall_eq']
    split
    next answering => simp [answering, and_assoc]
    next other => simp [other]

theorem later_considerRegistration (registration : Registration) :
    Later now (considerRegistration next registration) ↔ Later now next ∧
      (registration.wanted = true → Later now registration.nextAttempt) := by
  unfold considerRegistration
  split
  next unset => simp [unset]
  next attempt set =>
    split
    next wanted => simp [set, wanted]
    next unwanted => simp [unwanted]

theorem later_foldl_considerTransaction (values : List Transaction) :
    Later now (values.foldl considerTransaction next) ↔ Later now next ∧
      ∀ transaction ∈ values, now < transaction.deadline ∧
        (transaction.retransmitting = true → now < transaction.retransmitAt) := by
  induction values generalizing next with
  | nil => simp
  | cons transaction values hypothesis =>
    rw [foldl_cons, hypothesis, later_considerTransaction, forall_mem_cons,
      and_assoc]

theorem later_nextDeadline_iff (agent : UserAgent Host) :
    Later now agent.nextDeadline ↔ agent.Asleep now := by
  unfold nextDeadline
  rw [later_considerRegistration, later_considerCall, later_foldl_considerTransaction]
  constructor
  · rintro ⟨⟨⟨-, transactions⟩, answering⟩, attempt⟩
    exact ⟨transactions, answering, attempt⟩
  · rintro ⟨transactions, answering, attempt⟩
    exact ⟨⟨⟨later_none now, transactions⟩, answering⟩, attempt⟩

end UserAgent

/-! ### Before the deadline -/

namespace UserAgent.Asleep

variable {agent : UserAgent Host} {now : Time} (asleep : agent.Asleep now)

include asleep

theorem not_due {transaction : Transaction} (pending : transaction ∈ agent.transactions.values) :
    transaction.due now = false := by
  obtain ⟨deadline, again⟩ := asleep.transactions transaction pending
  unfold Transaction.due
  cases retransmitting : transaction.retransmitting with
  | false => simp
  | true => simp [Int.not_le.mpr (again retransmitting)]

theorem expiredKeys_eq : agent.expiredKeys now = [] := by
  unfold expiredKeys
  rw [map_eq_nil_iff, filter_eq_nil_iff]
  intro transaction pending
  simpa using (asleep.transactions transaction pending).1

variable [UserAgentHost Host]

theorem retransmit_eq : agent.retransmit now = agent := by
  have silent : agent.transactions.values.foldl (fun agent transaction =>
      if transaction.due now then agent.sendRaw transaction.packet else agent) agent = agent := by
    refine loop_keeps (· = agent) _ (fun current transaction pending same => ?_) rfl
    rw [asleep.not_due pending]
    exact same
  have kept : agent.transactions.change (·.backOff now)
      (fun transaction => transaction.backOff_key now) = agent.transactions := by
    have same : ∀ transaction ∈ agent.transactions.values,
        transaction.backOff now = id transaction := by
      intro transaction pending
      unfold Transaction.backOff
      rw [asleep.not_due pending]
      rfl
    exact OrderedMap.ext ((map_congr_left same).trans (map_id _))
  unfold UserAgent.retransmit
  rw [silent, kept]

theorem awaitAck_eq : agent.awaitAck now = agent := by
  unfold awaitAck
  split
  · rfl
  next call present =>
    split
    · rfl
    next answering =>
      obtain ⟨resend, deadline⟩ := asleep.answering call present (not_not.mp answering)
      rw [if_neg (Int.not_le.mpr deadline), if_neg (Int.not_le.mpr resend)]

theorem refresh_eq : agent.refresh now = agent := by
  unfold UserAgent.refresh
  split
  · rfl
  next attempt set =>
    split
    next due =>
      simp only [Bool.and_eq_true, decide_eq_true_eq] at due
      exact absurd (asleep.attempt due.1.1 attempt set) (Int.not_lt.mpr due.1.2)
    · rfl

theorem onTimer_eq : agent.onTimer now = agent := by
  unfold onTimer
  rw [asleep.retransmit_eq, asleep.expiredKeys_eq]
  show (agent.awaitAck now).refresh now = agent
  rw [asleep.awaitAck_eq, asleep.refresh_eq]

end UserAgent.Asleep

/-- Until `next_deadline`, or for ever when there is none, `on_timer` changes nothing: it sends
nothing, emits nothing and leaves the whole state as it is. -/
theorem onTimer_idle [UserAgentHost Host] (agent : UserAgent Host) (now : Time)
    (early : ∀ deadline, agent.nextDeadline = some deadline → now < deadline) :
    agent.step (.timer now) = agent :=
  ((UserAgent.later_nextDeadline_iff now agent).mp early).onTimer_eq

/-- A pending REGISTER is sent again after half a second, and not before. -/
theorem registering_idle :
    (UserAgent.ideal.step (.startRegistration 0)).nextDeadline = some (milliseconds 500) ∧
      (UserAgent.ideal.step (.startRegistration 0)).step (.timer (milliseconds 499)) =
        UserAgent.ideal.step (.startRegistration 0) := by
  have next : (UserAgent.ideal.step (.startRegistration 0)).nextDeadline =
      some (milliseconds 500) := by
    decide +kernel
  refine ⟨next, onTimer_idle _ _ ?_⟩
  rw [next]
  rintro _ ⟨⟩
  decide

/-! ### When a time is over -/

namespace UserAgent

variable [UserAgentHost Host] (agent : UserAgent Host) (now : Time)

theorem endCall_transactions (reason : EndReason) (status : Int) :
    (agent.endCall reason status).transactions = agent.transactions := by
  unfold endCall
  split
  · rfl
  · dsimp only
    split <;> rfl

theorem runFinal_none_transactions (handler : FinalHandler) :
    (agent.runFinal handler none now).transactions = agent.transactions := by
  match handler with
  | .register expires authenticated =>
    show (agent.onRegisterFinal none expires authenticated now).transactions = _
    rw [onRegisterFinal_none]
    split <;> rfl
  | .invite context =>
    show (if (agent.callOf context).isSome then agent.endCall .timeout 408 else agent).transactions
      = _
    split
    · exact agent.endCall_transactions _ _
    · rfl
  | .ignore => rfl

theorem expire_transactions (key : Bytes) :
    (agent.expire now key).transactions = agent.transactions.erase key := by
  unfold expire
  split
  next missing => exact (erase_of_find_eq_none missing).symm
  next transaction _ => exact runFinal_none_transactions _ now transaction.onFinal

theorem mem_foldl_expire {keys : List Bytes} {transaction : Transaction} :
    transaction ∈ (keys.foldl (expire now) agent).transactions.values ↔
      transaction ∈ agent.transactions.values ∧ transaction.key ∉ keys := by
  induction keys generalizing agent with
  | nil => simp
  | cons key keys hypothesis =>
    rw [foldl_cons, hypothesis, expire_transactions, mem_values_erase,
      mem_cons, not_or, and_assoc]

/-- What ends without a response does not look at the other transactions. -/
theorem runFinal_none_change (handler : FinalHandler) (transactions : OrderedMap Transaction.key) :
    runFinal handler none now { agent with transactions } =
      { agent.runFinal handler none now with transactions } := by
  match handler with
  | .register expires authenticated =>
    show onRegisterFinal none expires authenticated now { agent with transactions } =
      { agent.onRegisterFinal none expires authenticated now with transactions }
    rw [onRegisterFinal_none, onRegisterFinal_none]
    dsimp only
    split <;> rfl
  | .invite context =>
    show (if (agent.callOf context).isSome then
        endCall .timeout 408 { agent with transactions }
      else { agent with transactions }) =
      { (if (agent.callOf context).isSome then agent.endCall .timeout 408 else agent) with
        transactions }
    split
    · unfold endCall
      dsimp only
      split
      · rfl
      · split <;> rfl
    · rfl
  | .ignore => rfl

/-- The handlers of a list of pending transactions run as if each was taken out in turn. -/
theorem foldl_runFinal_none (transactions : OrderedMap Transaction.key)
    {values : List Transaction}
    (apart : values.Pairwise fun first second => first.key < second.key)
    (pending : ∀ transaction ∈ values, transaction ∈ agent.transactions.values) :
    values.foldl (fun agent transaction => agent.runFinal transaction.onFinal none now)
        { agent with transactions } =
      { (values.map Transaction.key).foldl (expire now) agent with transactions } := by
  induction values generalizing agent with
  | nil => rfl
  | cons transaction values hypothesis =>
    obtain ⟨below, apartRest⟩ := pairwise_cons.mp apart
    have found := (agent.transactions.mem_values_iff transaction).mp
      (pending transaction mem_cons_self)
    have taken : agent.expire now transaction.key =
        (agent.without transaction).runFinal transaction.onFinal none now := by
      unfold expire
      rw [found]
      rfl
    have first : runFinal transaction.onFinal none now { agent with transactions } =
        { agent.expire now transaction.key with transactions } := by
      rw [taken, without, agent.runFinal_none_change now _ (agent.transactions.erase _),
        agent.runFinal_none_change now _ transactions]
    rw [foldl_cons, first, map_cons, foldl_cons]
    refine hypothesis (agent.expire now transaction.key) apartRest fun later member => ?_
    rw [expire_transactions, mem_values_erase]
    exact ⟨pending later (mem_cons_of_mem _ member), ne_of_gt (below later member)⟩

theorem foldl_runFinal_none_all :
    agent.transactions.values.foldl
        (fun agent transaction => agent.runFinal transaction.onFinal none now)
        { agent with transactions := OrderedMap.empty } =
      (agent.transactions.values.map Transaction.key).foldl (expire now) agent := by
  rw [agent.foldl_runFinal_none now OrderedMap.empty agent.transactions.sorted
    fun _ member => member]
  have emptied : ((agent.transactions.values.map Transaction.key).foldl (expire now)
      agent).transactions = OrderedMap.empty := by
    refine OrderedMap.ext (eq_nil_iff_forall_not_mem.mpr fun transaction member => ?_)
    obtain ⟨pending, kept⟩ := (agent.mem_foldl_expire now).mp member
    exact kept (mem_map_of_mem pending)
  rw [← emptied]

/-- The agent once `on_timer` has taken out the transactions that are over. -/
def expired : UserAgent Host := (agent.expiredKeys now).foldl (expire now) (agent.retransmit now)

theorem onTimer_eq : agent.onTimer now = ((agent.expired now).awaitAck now).refresh now := rfl

@[simp]
theorem retransmit_registration : (agent.retransmit now).registration = agent.registration := by
  obtain ⟨host, equal⟩ := agent.retransmit_eq now
  rw [equal]

theorem mem_retransmit {transaction : Transaction} :
    transaction ∈ (agent.retransmit now).transactions.values ↔
      ∃ old ∈ agent.transactions.values, old.backOff now = transaction := by
  obtain ⟨host, equal⟩ := agent.retransmit_eq now
  rw [equal]
  exact mem_map

omit [UserAgentHost Host] in
theorem key_mem_expiredKeys {transaction : Transaction}
    (pending : transaction ∈ agent.transactions.values) :
    transaction.key ∈ agent.expiredKeys now ↔ transaction.deadline ≤ now := by
  unfold expiredKeys
  rw [mem_map]
  constructor
  · rintro ⟨other, lapsed, same⟩
    obtain ⟨member, deadline⟩ := mem_filter.mp lapsed
    cases agent.transactions.eq_of_key_eq pending member same
    exact of_decide_eq_true deadline
  · intro deadline
    exact ⟨transaction, mem_filter.mpr ⟨pending, decide_eq_true deadline⟩, rfl⟩

theorem mem_expired {transaction : Transaction} :
    transaction ∈ (agent.expired now).transactions.values ↔
      ∃ old ∈ agent.transactions.values, now < old.deadline ∧ old.backOff now = transaction := by
  unfold expired
  rw [mem_foldl_expire, mem_retransmit]
  constructor
  · rintro ⟨⟨old, pending, rfl⟩, kept⟩
    rw [Transaction.backOff_key, agent.key_mem_expiredKeys now pending] at kept
    exact ⟨old, pending, Int.not_le.mp kept, rfl⟩
  · rintro ⟨old, pending, early, rfl⟩
    refine ⟨⟨old, pending, rfl⟩, ?_⟩
    rw [Transaction.backOff_key, agent.key_mem_expiredKeys now pending]
    exact Int.not_le.mpr early

end UserAgent

/-- What the end of transactions does to the registration, when one of them was a REGISTER and when
none was. -/
structure Lapses (now : Time) (register : Prop) (before after : Registration) : Prop where
  kept : ¬ register → after = before
  wanted : after.wanted = before.wanted
  landed : register → after.inFlight = false
  attempt : after.nextAttempt = before.nextAttempt ∨
    after.nextAttempt = some (now + kRegisterRetry)

namespace Lapses

variable {now : Time}

theorem congr {register other : Prop} {before after : Registration}
    (lapses : Lapses now register before after) (same : register ↔ other) :
    Lapses now other before after :=
  ⟨fun absent => lapses.kept (mt same.mp absent), lapses.wanted,
    fun present => lapses.landed (same.mpr present), lapses.attempt⟩

theorem refl {register : Prop} (absent : ¬ register) (registration : Registration) :
    Lapses now register registration registration :=
  ⟨fun _ => rfl, rfl, fun present => absurd present absent, Or.inl rfl⟩

theorem trans {early late : Prop} {first second third : Registration}
    (lapses : Lapses now early first second) (more : Lapses now late second third) :
    Lapses now (early ∨ late) first third where
  kept := fun neither =>
    (more.kept fun second => neither (Or.inr second)).trans
      (lapses.kept fun first => neither (Or.inl first))
  wanted := more.wanted.trans lapses.wanted
  landed := by
    intro either
    by_cases again : late
    · exact more.landed again
    · rw [more.kept again]
      exact lapses.landed (either.resolve_right again)
  attempt := by
    rcases more.attempt with same | set
    · rw [same]
      exact lapses.attempt
    · exact Or.inr set

variable [UserAgentHost Host]

theorem expire (agent : UserAgent Host) (key : Bytes) :
    Lapses now
      (∃ transaction ∈ agent.transactions.values, transaction.onFinal.isRegister = true ∧
        transaction.key = key)
      agent.registration (agent.expire now key).registration := by
  rcases agent.expire_cases now key with leaves | ⟨transaction, expires, authenticated, found,
    handler, equal⟩
  · -- what leaves the registration alone took no REGISTER out
    rw [leaves.registration]
    refine refl ?_ _
    rintro ⟨transaction, pending, register, rfl⟩
    have kept := (half_eq_some true).mpr
      ⟨(agent.transactions.mem_values_iff transaction).mp pending, register⟩
    rw [← leaves.registers, expire_transactions, half_erase, if_pos rfl] at kept
    cases kept
  · rw [equal, onRegisterFinal_none]
    have lapsed : ∃ transaction ∈ agent.transactions.values,
        transaction.onFinal.isRegister = true ∧ transaction.key = key :=
      ⟨transaction, (find_eq_some_iff.mp found).1, by rw [handler]; rfl,
        keyOf_of_find found⟩
    split
    · exact ⟨fun absent => absurd lapsed absent, rfl, fun _ => rfl, Or.inl rfl⟩
    · exact ⟨fun absent => absurd lapsed absent, rfl, fun _ => rfl, Or.inr rfl⟩

theorem foldl_expire (now : Time) (agent : UserAgent Host) (keys : List Bytes) :
    Lapses now
      (∃ transaction ∈ agent.transactions.values, transaction.onFinal.isRegister = true ∧
        transaction.key ∈ keys)
      agent.registration (keys.foldl (UserAgent.expire now) agent).registration := by
  induction keys generalizing agent with
  | nil => exact refl (by simp) _
  | cons key keys hypothesis =>
    have both := (expire agent key).trans (hypothesis (agent.expire now key))
    refine both.congr ⟨?_, ?_⟩
    · rintro (⟨transaction, pending, register, rfl⟩ | ⟨transaction, pending, register, member⟩)
      · exact ⟨transaction, pending, register, mem_cons_self⟩
      · rw [expire_transactions, mem_values_erase] at pending
        exact ⟨transaction, pending.1, register, mem_cons_of_mem _ member⟩
    · rintro ⟨transaction, pending, register, member⟩
      by_cases same : transaction.key = key
      · exact Or.inl ⟨transaction, pending, register, same⟩
      · refine Or.inr ⟨transaction, ?_, register, (mem_cons.mp member).resolve_left same⟩
        rw [expire_transactions, mem_values_erase]
        exact ⟨pending, same⟩

/-- What `on_timer` does to the registration before it looks for the next attempt. -/
theorem expired (now : Time) (agent : UserAgent Host) :
    Lapses now
      (∃ transaction ∈ agent.transactions.values, transaction.onFinal.isRegister = true ∧
        transaction.deadline ≤ now)
      agent.registration (agent.expired now).registration := by
  have lapses := foldl_expire now (agent.retransmit now) (agent.expiredKeys now)
  rw [retransmit_registration] at lapses
  refine lapses.congr ⟨?_, ?_⟩
  · rintro ⟨_, again, register, member⟩
    obtain ⟨transaction, pending, rfl⟩ := (agent.mem_retransmit now).mp again
    rw [Transaction.backOff_onFinal] at register
    rw [Transaction.backOff_key, agent.key_mem_expiredKeys now pending] at member
    exact ⟨transaction, pending, register, member⟩
  · rintro ⟨transaction, pending, register, lapsed⟩
    refine ⟨transaction.backOff now, (agent.mem_retransmit now).mpr ⟨_, pending, rfl⟩, ?_, ?_⟩
    · rw [Transaction.backOff_onFinal]
      exact register
    · rw [Transaction.backOff_key, agent.key_mem_expiredKeys now pending]
      exact lapsed

end Lapses

end KetPhone.Core
