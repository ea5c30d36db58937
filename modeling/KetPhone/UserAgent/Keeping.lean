/-
This file asks whether a wanted registration is ever abandoned in silence. While
it is wanted, a REGISTER with a non-zero Expires value should be pending, or the
next attempt be set, or the application have been told of a permanent refusal. One
step breaks this: a start while only the unregister of an earlier stop is in
flight sends nothing, and the end of that unregister does not make up for it. In a
run without such a start the registration is always kept.
-/

import KetPhone.UserAgent.Moves

namespace KetPhone.Core

open Sip List OrderedMap UserAgent

variable {Host : Type}

/-! ### The registration as its application sees it -/

/-- The status of a Registration event. -/
def Action.registrationStatus : Action → Option Int
  | .emit event => if event.kind = .registration then some event.status else none
  | _ => none

/-- An agent, and how long its log was at the last call of `start_registration`. -/
structure Watched (Host : Type) where
  agent : UserAgent Host
  since : Nat

def Watched.step [UserAgentHost Host] (watched : Watched Host) (op : Op) : Watched Host :=
  { agent := watched.agent.step op
    since := match op with
      | .startRegistration _ => watched.agent.log.length
      | _ => watched.since }

/-- The statuses of the Registration events since a length of the log. -/
def UserAgent.reports (agent : UserAgent Host) (since : Nat) : List Int :=
  (agent.log.drop since).filterMap Action.registrationStatus

/-- A REGISTER with a non-zero Expires value is pending. -/
def UserAgent.AwaitsRegister (agent : UserAgent Host) : Prop :=
  ∃ transaction ∈ agent.transactions.values, transaction.packet.Registers

/-- The latest report since a length of the log is a permanent refusal. -/
def UserAgent.Refused (agent : UserAgent Host) (since : Nat) : Prop :=
  ∃ status, (agent.reports since).getLast? = some status ∧ UserAgent.isSuccess status = false ∧
    UserAgent.isTransient status = false

/-- A wanted registration is not abandoned. -/
def Watched.Kept (watched : Watched Host) : Prop :=
  watched.agent.registration.wanted = true → watched.agent.shuttingDown = false →
    watched.agent.AwaitsRegister ∨ watched.agent.registration.nextAttempt.isSome = true ∨
      watched.agent.Refused watched.since

/-- A start finds no REGISTER in flight, or one with a non-zero Expires value. -/
def StartsInTime (watched : Watched Host) : Op → Prop
  | .startRegistration _ =>
    watched.agent.shuttingDown = false → watched.agent.registration.inFlight = true →
      watched.agent.AwaitsRegister
  | _ => True

/-! ### What covers a wanted registration -/

namespace UserAgent

theorem reports_append (agent : UserAgent Host) {since : Nat} (within : since ≤ agent.log.length)
    {after : UserAgent Host} {added : List Action} (grown : after.log = agent.log ++ added) :
    after.reports since = agent.reports since ++ added.filterMap Action.registrationStatus := by
  unfold reports
  rw [grown, drop_append_of_le_length within, filterMap_append]

end UserAgent

/-- The registration is kept, by the state or by something outstanding: a REGISTER whose end is
about to be handled. -/
structure Covered (outstanding : Prop) (since : Nat) (agent : UserAgent Host) : Prop where
  kept : agent.registration.wanted = true → agent.shuttingDown = false →
    outstanding ∨ agent.AwaitsRegister ∨ agent.registration.nextAttempt.isSome = true ∨
      agent.Refused since
  backed : agent.registration.registered = true →
    outstanding ∨ agent.AwaitsRegister ∨ agent.registration.nextAttempt.isSome = true
  asked : agent.registration.registered = true → agent.registration.wanted = true
  within : since ≤ agent.log.length

namespace Covered

variable {outstanding : Prop} {since : Nat} {before after : UserAgent Host}

theorem imp {other : Prop} (covered : Covered outstanding since before)
    (implies : outstanding → other) : Covered other since before :=
  { covered with
    kept := fun wanted running => (covered.kept wanted running).imp_left implies
    backed := fun registered => (covered.backed registered).imp_left implies }

theorem of_awaits (awaits : before.AwaitsRegister)
    (asked : before.registration.registered = true → before.registration.wanted = true)
    (within : since ≤ before.log.length) : Covered outstanding since before :=
  ⟨fun _ _ => Or.inr (Or.inl awaits), fun _ => Or.inr (Or.inl awaits), asked, within⟩

theorem of_stopped (stopped : before.registration.wanted = false)
    (unregistered : before.registration.registered = false) (within : since ≤ before.log.length) :
    Covered outstanding since before where
  kept := fun wanted => nomatch wanted.symm.trans stopped
  backed := fun registered => nomatch registered.symm.trans unregistered
  asked := fun registered => nomatch registered.symm.trans unregistered
  within := within

/-- What leaves the parts of a registration alone that matter here. -/
theorem congr (covered : Covered outstanding since before)
    (wanted : after.registration.wanted = before.registration.wanted)
    (registered : after.registration.registered = before.registration.registered)
    (nextAttempt : after.registration.nextAttempt = before.registration.nextAttempt)
    (shuttingDown : after.shuttingDown = before.shuttingDown)
    (log : Grows (fun action => action.registrationStatus = none) before.log after.log)
    (awaits : before.AwaitsRegister → after.AwaitsRegister) : Covered outstanding since after := by
  obtain ⟨added, grown, quiet⟩ := log
  have refused : before.Refused since → after.Refused since := by
    rintro ⟨status, latest, permanent⟩
    refine ⟨status, ?_, permanent⟩
    rw [reports_append before covered.within grown, filterMap_eq_nil_iff.mpr quiet,
      append_nil, latest]
  refine ⟨fun asks running => ?_, fun holds => ?_, ?_, ?_⟩
  · rw [wanted] at asks
    rw [shuttingDown] at running
    rw [nextAttempt]
    exact (covered.kept asks running).imp_right (Or.imp awaits (Or.imp_right refused))
  · rw [registered] at holds
    rw [nextAttempt]
    exact (covered.backed holds).imp_right (Or.imp_left awaits)
  · rw [wanted, registered]
    exact covered.asked
  · rw [grown, length_append]
    exact covered.within.trans (Nat.le_add_right _ _)

theorem leaves (covered : Covered outstanding since before)
    (same : LeavesRegistration before after) : Covered outstanding since after := by
  refine covered.congr (by rw [same.registration]) (by rw [same.registration])
    (by rw [same.registration]) same.shuttingDown (same.log.mono fun action quiet => ?_) ?_
  · match action with
    | .emit event => exact if_neg quiet
    | .sendSip _ => rfl
    | .openMedia _ => rfl
    | .startMedia _ _ => rfl
    | .closeMedia => rfl
    | .begin _ _ _ => rfl
  · rintro ⟨transaction, pending, registers⟩
    have register := (Transaction.registers_packet_iff.mp registers).isRegister
    exact ⟨transaction, mem_values_of_half true same.registers.symm register pending, registers⟩

theorem answerChallenge (covered : Covered outstanding since before) (response : Option Message)
    (authenticated : Bool) :
    Covered outstanding since (before.landed.answerChallenge response authenticated).2 := by
  rcases before.landed.answerChallenge_snd response authenticated with same | drawn
  · rw [same]
    exact covered.congr rfl rfl rfl rfl (Grows.refl _) id
  · rw [drawn]
    exact covered.congr rfl rfl rfl rfl (Grows.refl _) id

/-- Taking out a transaction leaves its REGISTER outstanding. -/
theorem without (covered : Covered outstanding since before) (transaction : Transaction)
    (pending : transaction ∈ before.transactions.values) :
    Covered (transaction.Registers ∨ outstanding) since (before.without transaction) := by
  have awaits : before.AwaitsRegister →
      transaction.Registers ∨ (before.without transaction).AwaitsRegister := by
    rintro ⟨other, member, registers⟩
    by_cases same : other.key = transaction.key
    · have equal : other = transaction := by
        have found := (before.transactions.mem_values_iff other).mp member
        rw [same, (before.transactions.mem_values_iff transaction).mp pending] at found
        exact (Option.some.inj found).symm
      exact Or.inl (Transaction.registers_packet_iff.mp (equal ▸ registers))
    · exact Or.inr ⟨other, mem_filter.mpr ⟨member, by simpa using same⟩, registers⟩
  refine ⟨fun wanted running => ?_, fun registered => ?_, covered.asked, covered.within⟩
  · rcases covered.kept wanted running with waits | awaited | rest
    · exact Or.inl (Or.inr waits)
    · exact (awaits awaited).imp Or.inl Or.inl
    · exact Or.inr (Or.inr rest)
  · rcases covered.backed registered with waits | awaited | rest
    · exact Or.inl (Or.inr waits)
    · exact (awaits awaited).imp Or.inl Or.inl
    · exact Or.inr (Or.inr rest)

/-- A reported end is a success or a transient failure, which set the next attempt, or a permanent
refusal, of which the application is told. -/
theorem concludeRegister (covered : Covered outstanding since before) {after : Prop}
    (wanted : before.registration.wanted = true) (response : Option Message) (expires : UInt32)
    (now : Time) : Covered after since (before.concludeRegister response expires now) := by
  unfold UserAgent.concludeRegister
  dsimp only
  generalize (response.map Message.status).getD 408 = status
  have reported (registration : Registration) :
      ({ before with registration }.emit { kind := .registration, status }).reports since =
        before.reports since ++ [status] := by
    rw [UserAgent.reports_append before covered.within rfl]
    rfl
  have within (registration : Registration) : since ≤
      ({ before with registration }.emit { kind := .registration, status }).log.length :=
    covered.within.trans (by simp [UserAgent.emit])
  cases success : UserAgent.isSuccess status with
  | true =>
    refine ⟨fun _ _ => Or.inr (Or.inr (Or.inl ?_)), fun _ => Or.inr (Or.inr ?_), fun _ => wanted,
      within _⟩
    · simp [UserAgent.emit]
    · simp [UserAgent.emit]
  | false =>
    refine ⟨fun _ _ => Or.inr (Or.inr ?_), fun registered => (nomatch registered), fun _ => wanted,
      within _⟩
    cases transient : UserAgent.isTransient status with
    | true =>
      refine Or.inl ?_
      simp [UserAgent.emit]
    | false =>
      refine Or.inr ⟨status, ?_, success, transient⟩
      rw [reported, List.getLast?_append_of_ne_nil _ (List.cons_ne_nil _ _)]
      rfl

variable [UserAgentHost Host]

theorem awaits_sendRegister (agent : UserAgent Host) {expires : UInt32} (nonzero : expires ≠ 0)
    (authorization : Bytes) (now : Time) :
    (agent.sendRegister expires authorization now).AwaitsRegister :=
  ⟨agent.registerTransaction expires authorization now, mem_values_put.mpr (Or.inl rfl),
    Transaction.registers_packet_iff.mpr ⟨expires, _, rfl, nonzero⟩⟩

theorem within_sendRegister (within : since ≤ before.log.length) (expires : UInt32)
    (authorization : Bytes) (now : Time) :
    since ≤ (before.sendRegister expires authorization now).log.length := by
  rw [sendRegister_eq, length_append]
  exact within.trans (Nat.le_add_right _ _)

theorem sendRegister
    (asked : before.registration.registered = true → before.registration.wanted = true)
    (within : since ≤ before.log.length) {expires : UInt32} (nonzero : expires ≠ 0)
    (authorization : Bytes) (now : Time) :
    Covered outstanding since (before.sendRegister expires authorization now) :=
  of_awaits (awaits_sendRegister before nonzero authorization now) asked
    (within_sendRegister within expires authorization now)

theorem unregister (covered : Covered outstanding since before) {authorization : Bytes} {now : Time}
    (free : ∀ transaction ∈ before.transactions.values, transaction.Registers →
      transaction.key ≠ (before.registerTransaction 0 authorization now).key) :
    Covered outstanding since (before.sendRegister 0 authorization now) := by
  rw [sendRegister_eq]
  refine covered.congr rfl rfl rfl rfl (Grows.single _ rfl) ?_
  rintro ⟨transaction, pending, registers⟩
  exact ⟨transaction, mem_values_put.mpr (Or.inr
    ⟨free transaction pending (Transaction.registers_packet_iff.mp registers), pending⟩), registers⟩

/-- The end of a REGISTER that was outstanding. -/
theorem onRegisterFinal (response : Option Message) (expires : UInt32) (authenticated : Bool)
    (now : Time) (covered : Covered (expires ≠ 0 ∨ outstanding) since before)
    (booked : Booked before)
    (distinct : (before.answerChallenge response authenticated).1.isSome = true →
      before.random.Distinct (before.onRegisterFinal response expires authenticated now).draws) :
    Covered outstanding since (before.onRegisterFinal response expires authenticated now) := by
  have challenged := covered.answerChallenge response authenticated
  have frame := ((RegisterSide.refl before).landed).answerChallenge response authenticated
  have pending : (before.landed.answerChallenge response authenticated).2.transactions =
      before.transactions := by
    rcases before.landed.answerChallenge_snd response authenticated with same | drawn
    · rw [same]
      rfl
    · rw [drawn]
      rfl
  cases answered : (before.answerChallenge response authenticated).1 with
  | some line =>
    rw [before.onRegisterFinal_challenged answered]
    by_cases zero : expires = 0
    · subst zero
      have unique : before.random.Distinct
          ((before.landed.answerChallenge response authenticated).2.draws + 1) := by
        have unique := distinct (by rw [answered]; rfl)
        rw [before.onRegisterFinal_challenged answered] at unique
        exact unique
      rw [← frame.frame.random] at unique
      refine (challenged.imp fun waits => waits.resolve_left (· rfl)).unregister ?_
      intro transaction waiting register
      rw [pending] at waiting
      exact booked.key_ne frame.frame.random frame.frame.draws unique waiting register.isRegister
        0 line now
    · exact sendRegister challenged.asked challenged.within zero line now
  | none =>
    unfold UserAgent.onRegisterFinal
    simp only [UserAgent.answerChallenge_landed, answered]
    split
    next zero => exact challenged.imp fun waits => waits.resolve_left (· zero)
    next nonzero =>
      cases wanted :
        (before.landed.answerChallenge response authenticated).2.registration.wanted with
      | false =>
        have unregistered : (before.landed.answerChallenge response
            authenticated).2.registration.registered = false := by
          rw [← Bool.not_eq_true]
          intro registered
          exact nomatch wanted.symm.trans (challenged.asked registered)
        rw [Bool.not_false, if_pos rfl]
        split
        · exact of_stopped wanted unregistered (within_sendRegister challenged.within 0 [] now)
        · exact of_stopped wanted unregistered challenged.within
      | true =>
        rw [Bool.not_true, if_neg Bool.false_ne_true]
        exact challenged.concludeRegister wanted response expires now

/-! ### Operations -/

variable {agent : UserAgent Host}

theorem runFinal {transaction : Transaction} (now : Time)
    (covered : Covered (transaction.Registers ∨ outstanding) since agent) (booked : Booked agent) :
    Covered outstanding since (agent.runFinal transaction.onFinal none now) := by
  cases side : transaction.onFinal.isRegister with
  | false =>
    have quiet := covered.imp fun waits => waits.resolve_left fun registers =>
      nomatch side.symm.trans registers.isRegister
    exact quiet.leaves (LeavesRegistration.runFinal side agent now)
  | true =>
    obtain ⟨expires, authenticated, handler⟩ := Transaction.exists_register_of_isRegister side
    rw [handler]
    refine onRegisterFinal none expires authenticated now (covered.imp (Or.imp_left ?_)) booked
      fun answered => nomatch answered
    rintro ⟨_, _, same, nonzero⟩
    cases handler.symm.trans same
    exact nonzero

theorem expire (covered : Covered False since agent) (booked : Booked agent) (now : Time)
    (key : Bytes) : Covered False since (agent.expire now key) := by
  unfold UserAgent.expire
  split
  · exact covered
  next transaction found =>
    obtain ⟨pending, keyed⟩ := find_eq_some_iff.mp found
    have erased := covered.without transaction pending
    rw [UserAgent.without, keyed] at erased
    exact erased.runFinal now (Booked.move (.erase agent key) booked)

theorem retransmit (covered : Covered outstanding since agent) (now : Time) :
    Covered outstanding since (agent.retransmit now) := by
  obtain ⟨host, equal⟩ := agent.retransmit_eq now
  rw [equal]
  refine covered.congr rfl rfl rfl rfl ⟨_, rfl, fun action member => ?_⟩ ?_
  · obtain ⟨_, _, rfl⟩ := mem_map.mp member
    rfl
  · rintro ⟨transaction, pending, registers⟩
    exact ⟨transaction.backOff now, mem_map.mpr ⟨transaction, pending, rfl⟩,
      by rwa [Transaction.backOff_packet]⟩

theorem refresh (covered : Covered False since agent)
    (positive : agent.config.registerExpires ≠ 0) (now : Time) :
    Covered False since (agent.refresh now) := by
  unfold UserAgent.refresh
  split
  · exact covered
  · split
    · refine sendRegister ?_ ?_ positive [] now
      · exact covered.asked
      · exact covered.within
    · exact covered

theorem onTimer (covered : Covered False since agent) (booked : Booked agent)
    (positive : agent.config.registerExpires ≠ 0) (now : Time) :
    Covered False since (agent.onTimer now) := by
  have start : Moves agent (agent.retransmit now) := .single (.retransmit agent now)
  have expired := loop_keeps
    (fun state => Moves agent state ∧ Covered False since state) (agent.expiredKeys now)
    (fun state key _ kept => ⟨kept.1.expire now key,
      kept.2.expire (kept.1.keep Booked.move booked) now key⟩)
    ⟨start, covered.retransmit now⟩
  have waited := expired.2.leaves (LeavesRegistration.awaitAck _ now)
  have moved := expired.1.tail (.leaves (LeavesRegistration.awaitAck _ now))
  exact waited.refresh ((Moves.continues moved).config ▸ positive) now

theorem onMessage (covered : Covered False since agent) (booked : Booked agent) {datagram : Bytes}
    {now : Time} (distinct : agent.random.Distinct (agent.onMessage datagram now).draws) :
    Covered False since (agent.onMessage datagram now) := by
  rcases agent.onMessage_cases datagram now with same |
    ⟨_, transaction, answers, _, _, equal⟩ |
    ⟨response, transaction, expires, authenticated, answers, handler, _, equal⟩
  · exact covered.leaves same
  · obtain ⟨-, -, key, -, found⟩ := answers
    obtain ⟨pending, -⟩ := find_eq_some_iff.mp found
    rw [equal]
    refine covered.congr rfl rfl rfl rfl (Grows.refl _) ?_
    rintro ⟨other, member, registers⟩
    by_cases same : other.key = transaction.key
    · have unique : other = transaction := by
        have there := (agent.transactions.mem_values_iff other).mp member
        rw [same, (agent.transactions.mem_values_iff transaction).mp pending] at there
        exact (Option.some.inj there).symm
      refine ⟨transaction.proceed now, mem_values_put.mpr (Or.inl rfl), ?_⟩
      rwa [Transaction.proceed_packet, ← unique]
    · exact ⟨other, mem_values_put.mpr
        (Or.inr ⟨by rwa [Transaction.proceed_key], member⟩), registers⟩
  · obtain ⟨-, -, key, -, found⟩ := answers
    obtain ⟨pending, -⟩ := find_eq_some_iff.mp found
    rw [equal] at distinct ⊢
    refine onRegisterFinal (some response) expires authenticated now
      ((covered.without transaction pending).imp (Or.imp_left ?_))
      (Booked.move (.erase agent _) booked) fun _ => distinct
    rintro ⟨_, _, same, nonzero⟩
    cases handler.symm.trans same
    exact nonzero

theorem onTransportDown (covered : Covered False since agent) (booked : Booked agent) (now : Time) :
    Covered False since (agent.onTransportDown now) := by
  have failed : ∀ (pending : List Transaction) (state : UserAgent Host), Booked state →
      Covered (∃ transaction ∈ pending, transaction.Registers) since state →
        Covered False since (pending.foldl
          (fun agent transaction => agent.runFinal transaction.onFinal none now) state) := by
    intro pending
    induction pending with
    | nil => exact fun state _ waits => waits.imp fun ⟨_, member, _⟩ => nomatch member
    | cons transaction pending hypothesis =>
      intro state books waits
      refine hypothesis _ ?_ ?_
      · have moves : Moves state state := .refl
        exact (moves.runFinal transaction.onFinal now).keep Booked.move books
      · refine runFinal now (waits.imp ?_) books
        rintro ⟨other, member, registers⟩
        rcases List.mem_cons.mp member with rfl | later
        · exact Or.inl registers
        · exact Or.inr ⟨other, later, registers⟩
  have cleared : Covered (∃ transaction ∈ agent.transactions.values, transaction.Registers) since
      { agent with transactions := OrderedMap.empty } := by
    have awaited : agent.AwaitsRegister →
        ∃ transaction ∈ agent.transactions.values, transaction.Registers :=
      fun ⟨transaction, pending, registers⟩ =>
        ⟨transaction, pending, Transaction.registers_packet_iff.mp registers⟩
    refine ⟨fun wanted running => ?_, fun registered => ?_, covered.asked, covered.within⟩
    · rcases covered.kept wanted running with absurdity | awaits | rest
      · exact absurdity.elim
      · exact Or.inl (awaited awaits)
      · exact Or.inr (Or.inr rest)
    · rcases covered.backed registered with absurdity | awaits | rest
      · exact absurdity.elim
      · exact Or.inl (awaited awaits)
      · exact Or.inr (Or.inr rest)
  have lapsed := failed agent.transactions.values _ (Booked.move (.clear agent) booked) cleared
  unfold UserAgent.onTransportDown
  dsimp only
  split
  next registered =>
    refine ⟨fun _ _ => ?_, fun still => (nomatch still), fun still => (nomatch still), ?_⟩
    · rcases lapsed.backed registered with absurdity | awaits | attempt
      · exact absurdity.elim
      · exact Or.inr (Or.inl awaits)
      · exact Or.inr (Or.inr (Or.inl attempt))
    · exact lapsed.within.trans (by simp [UserAgent.emit])
  · exact lapsed

theorem stopRegistration (within : since ≤ agent.log.length) (now : Time) :
    Covered False since (agent.stopRegistration now) := by
  unfold UserAgent.stopRegistration
  dsimp only
  split
  · exact of_stopped rfl rfl (within_sendRegister within 0 [] now)
  next idle =>
    rw [Bool.or_eq_true, not_or, Bool.not_eq_true] at idle
    exact of_stopped rfl idle.1 within

end Covered

/-! ### Runs -/

section Runs

variable [UserAgentHost Host] {watched : Watched Host} {op : Op}

theorem Watched.moves_run (watched : Watched Host) (ops : List Op) :
    Moves watched.agent (run Watched.step watched ops).agent := by
  have stepped (state : Watched Host) (op : Op) : Moves state.agent (state.step op).agent :=
    Moves.step state.agent op
  exact run_relates (fun first second : Watched Host => Moves first.agent second.agent)
    (fun _ => .refl) Relation.ReflTransGen.trans stepped watched ops

theorem Covered.startRegistration (covered : Covered False watched.since watched.agent)
    (positive : watched.agent.config.registerExpires ≠ 0) {now : Time}
    (inTime : StartsInTime watched (.startRegistration now)) :
    Covered False watched.agent.log.length (watched.agent.startRegistration now) := by
  unfold UserAgent.startRegistration
  split
  next closing =>
    exact ⟨fun _ running => (nomatch closing.symm.trans running), covered.backed, covered.asked,
      le_rfl⟩
  next running =>
    dsimp only
    split
    next inFlight =>
      obtain ⟨transaction, pending, registers⟩ :=
        inTime ((Bool.not_eq_true _).mp running) inFlight
      exact of_awaits ⟨transaction, pending, registers⟩ (fun _ => rfl) le_rfl
    next =>
      refine sendRegister ?_ ?_ positive [] now
      · exact fun _ => rfl
      · exact le_rfl

/-- One operation. -/
theorem Covered.step (covered : Covered False watched.since watched.agent)
    (booked : Booked watched.agent) (positive : watched.agent.config.registerExpires ≠ 0)
    (distinct : watched.agent.random.Distinct (watched.step op).agent.draws)
    (inTime : StartsInTime watched op) :
    Covered False (watched.step op).since (watched.step op).agent := by
  cases op with
  | startRegistration now => exact covered.startRegistration positive inTime
  | stopRegistration now => exact stopRegistration covered.within now
  | call id target now => exact covered.leaves (LeavesRegistration.call _ id target now)
  | answer id now => exact covered.leaves (LeavesRegistration.answer _ id now)
  | reject id status => exact covered.leaves (LeavesRegistration.reject _ id status)
  | hangup id now => exact covered.leaves (LeavesRegistration.hangup _ id now)
  | shutdown now =>
    show Covered False watched.since (watched.agent.shutdown now)
    unfold UserAgent.shutdown
    dsimp only
    split
    · have closing : watched.since ≤ { watched.agent with shuttingDown := true }.log.length :=
        covered.within
      exact stopRegistration closing now
    next call _ =>
      refine stopRegistration ?_ now
      obtain ⟨added, grown, -⟩ := (LeavesRegistration.hangup
        { watched.agent with shuttingDown := true } call.id now).log
      rw [grown, length_append]
      exact covered.within.trans (Nat.le_add_right _ _)
  | transportDown now => exact covered.onTransportDown booked now
  | transportUp now =>
    show Covered False watched.since (watched.agent.onTransportUp now)
    unfold onTransportUp
    split
    · exact covered
    · refine sendRegister ?_ ?_ positive [] now
      · exact covered.asked
      · exact covered.within
  | message datagram now => exact covered.onMessage booked distinct
  | timer now => exact covered.onTimer booked positive now
  | takeEvents => exact ⟨covered.kept, covered.backed, covered.asked, covered.within⟩

theorem Covered.run {ops : List Op} (covered : Covered False watched.since watched.agent)
    (booked : Booked watched.agent) (positive : watched.agent.config.registerExpires ≠ 0)
    (distinct : watched.agent.random.Distinct (run Watched.step watched ops).agent.draws)
    (inTime : StepsMeet Watched.step StartsInTime watched ops) :
    (run Watched.step watched ops).Kept := by
  induction ops generalizing watched with
  | nil => exact fun wanted running => (covered.kept wanted running).resolve_left id
  | cons op ops hypothesis =>
    have moves : Moves watched.agent (watched.step op).agent := Moves.step watched.agent op
    have later := (watched.step op).moves_run ops
    have first := covered.step booked positive
      (distinct.mono later.continues.draws) inTime.1
    refine hypothesis first (moves.keep Booked.move booked)
      (moves.continues.config ▸ positive) (moves.continues.random ▸ distinct) inTime.2

/-- A start while only unregisters are in flight leaves nothing that registers. -/
theorem not_kept_of_late_start (late : ¬ StartsInTime watched op) : ¬ (watched.step op).Kept := by
  intro kept
  apply late
  match op with
  | .startRegistration now =>
    intro running inFlight
    have started : (watched.step (.startRegistration now)).agent = { watched.agent with
        registration :=
          { watched.agent.registration with wanted := true, nextAttempt := none } } := by
      show watched.agent.startRegistration now = _
      unfold startRegistration
      rw [if_neg (by rw [running]; decide)]
      dsimp only
      rw [if_pos inFlight]
    have silent : (watched.step (.startRegistration now)).agent.reports watched.agent.log.length =
        [] := by
      rw [started, UserAgent.reports, drop_length]
      rfl
    rcases kept (by rw [started]) (by rw [started]; exact running) with awaits | attempt | refused
    · rw [started] at awaits
      exact awaits
    · rw [started] at attempt
      cases attempt
    · obtain ⟨status, latest, -⟩ := refused
      rw [show (watched.step (.startRegistration now)).since = watched.agent.log.length from rfl,
        silent] at latest
      cases latest
  | .stopRegistration _ => trivial
  | .call _ _ _ => trivial
  | .answer _ _ => trivial
  | .reject _ _ => trivial
  | .hangup _ _ => trivial
  | .shutdown _ => trivial
  | .transportDown _ => trivial
  | .transportUp _ => trivial
  | .message _ _ => trivial
  | .timer _ => trivial
  | .takeEvents => trivial

theorem startsInTime_of_kept {ops : List Op}
    (kept : ∀ reached, reached <+: ops → (run Watched.step watched reached).Kept) :
    StepsMeet Watched.step StartsInTime watched ops := by
  induction ops generalizing watched with
  | nil => trivial
  | cons op ops hypothesis =>
    constructor
    · by_contra late
      exact not_kept_of_late_start late (kept [op] ⟨ops, rfl⟩)
    · refine hypothesis fun reached inside => ?_
      exact kept (op :: reached) (cons_prefix_cons.mpr ⟨rfl, inside⟩)

/-- In a run whose branches differ, a wanted registration is kept in every state reached exactly
when no start finds only unregisters in flight. -/
theorem kept_iff_startsInTime (config : UserAgentConfig) (positive : config.registerExpires ≠ 0)
    (host : Host) (random : Random) (ops : List Op)
    (distinct : random.Distinct
      (run Watched.step ⟨UserAgent.create config host random, 0⟩ ops).agent.draws) :
    (∀ reached, reached <+: ops →
        (run Watched.step ⟨UserAgent.create config host random, 0⟩ reached).Kept) ↔
      StepsMeet Watched.step StartsInTime ⟨UserAgent.create config host random, 0⟩ ops := by
  constructor
  · exact startsInTime_of_kept
  · rintro inTime reached ⟨rest, rfl⟩
    have initial : Covered False 0 (UserAgent.create config host random) :=
      Covered.of_stopped rfl rfl le_rfl
    have later := (run Watched.step ⟨UserAgent.create config host random, 0⟩ reached).moves_run rest
    rw [run_append] at distinct
    exact initial.run (Booked.create config host random) positive
      (distinct.mono later.continues.draws) (stepsMeet_append.mp inTime).1

end Runs

/-- The run that starts, loses its connection and gets a new one keeps its registration. -/
theorem reconnected_kept :
    (run Watched.step ⟨UserAgent.ideal, 0⟩
      [.startRegistration 0, .transportDown 1, .transportUp 2]).Kept :=
  (kept_iff_startsInTime _ (by decide) _ _ [.startRegistration 0, .transportDown 1, .transportUp 2]
    (Random.counting_distinct _)).mpr
      ⟨fun _ inFlight => (nomatch inFlight), trivial, trivial, trivial⟩ _ (List.prefix_refl _)

/-- Registered, stopped, and started again before the unregister is answered. -/
def restarted : Watched IdealHost :=
  run Watched.step ⟨UserAgent.ideal, 0⟩
    [.startRegistration 0, .message firstAccepted 1, .stopRegistration 2, .startRegistration 3]

/-- The restarted agent wants to be registered, and nothing it waits for will bring that about. -/
theorem restarted_not_kept :
    restarted.agent.config.registerExpires ≠ 0 ∧
      restarted.agent.random.Distinct restarted.agent.draws ∧ ¬ restarted.Kept := by
  have same : restarted.agent.random = Random.counting :=
    (Watched.moves_run ⟨UserAgent.ideal, 0⟩ _).continues.random
  refine ⟨by decide +kernel, same ▸ Random.counting_distinct _, fun kept => ?_⟩
  rcases kept (by decide +kernel) (by decide +kernel) with awaits | attempt | ⟨status, latest, -⟩
  · revert awaits
    unfold UserAgent.AwaitsRegister
    decide +kernel
  · revert attempt
    decide +kernel
  · have silent : (restarted.agent.reports restarted.since).getLast? = none := by decide +kernel
    cases silent.symm.trans latest

end KetPhone.Core
