/-
This file asks whether the in-flight flag of the registration tells the truth. The
flag stands for the set of pending REGISTERs, and the end of any of them clears it.
So it is truthful as long as no REGISTER ends, without another one in reply, while
others are left; an unregister that overtakes a pending REGISTER leads to just
that, and the next start then sends a REGISTER beside the one still unanswered.
-/

import KetPhone.UserAgent.Conduct
import KetPhone.UserAgent.Timers

namespace KetPhone.Core

open Sip List OrderedMap UserAgent

variable {Host : Type}

/-! ### The flag and what it stands for -/

/-- A REGISTER transaction is pending. -/
def UserAgent.HasRegister (agent : UserAgent Host) : Prop :=
  ∃ transaction ∈ agent.transactions.values, transaction.method = ascii "REGISTER"

/-- The in-flight flag is set exactly while a REGISTER is pending. -/
def UserAgent.FlagHolds (agent : UserAgent Host) : Prop :=
  agent.registration.inFlight = true ↔ agent.HasRegister

/-- The REGISTERs that an operation finds unanswered. Those whose time is over are so no more when
`on_timer` comes to send one. -/
def UserAgent.Unanswered (agent : UserAgent Host) (op : Op) (transaction : Transaction) : Prop :=
  transaction ∈ agent.transactions.values ∧ transaction.method = ascii "REGISTER" ∧
    match op with
    | .timer now => now < transaction.deadline
    | _ => True

/-- The operations that send a REGISTER unless one is in flight. -/
def Op.Begins : Op → Prop
  | .startRegistration _ => True
  | .timer _ => True
  | .transportUp _ => True
  | _ => False

/-- Sends a REGISTER. -/
def Action.SendsRegister : Action → Prop
  | .sendSip packet => packet.method = some (ascii "REGISTER")
  | _ => False

/-- A final response to a REGISTER is answered with another REGISTER. -/
def UserAgent.Reregisters (agent : UserAgent Host) (response : Message) (expires : UInt32)
    (authenticated : Bool) : Prop :=
  (agent.answerChallenge (some response) authenticated).1.isSome = true ∨
    expires ≠ 0 ∧ agent.registration.wanted = false ∧
      UserAgent.isSuccess response.status = true

/-- No REGISTER ends, without another one in reply, while others are left pending. -/
def EndsTogether (agent : UserAgent Host) : Op → Prop
  | .message datagram _ => ∀ response transaction expires authenticated,
      agent.Answers datagram response transaction →
        transaction.onFinal = .register expires authenticated → 200 ≤ response.status →
          agent.Reregisters response expires authenticated ∨
            ∀ other ∈ agent.transactions.values, other.method = ascii "REGISTER" →
              other = transaction
  | .timer now => ∀ lapsed ∈ agent.transactions.values, lapsed.method = ascii "REGISTER" →
      lapsed.deadline ≤ now → ∀ other ∈ agent.transactions.values,
        other.method = ascii "REGISTER" → other.deadline ≤ now
  | _ => True

variable [UserAgentHost Host]

/-- After the operation the flag is truthful, and an operation that minds it has not sent a
REGISTER beside an unanswered one. -/
structure InFlightTold (agent : UserAgent Host) (op : Op) : Prop where
  flag : (agent.step op).FlagHolds
  alone : op.Begins → (∃ action ∈ agent.started op, action.SendsRegister) →
    ∀ transaction, ¬ agent.Unanswered op transaction

/-! ### What changes the flag -/

namespace UserAgent

variable {agent before after : UserAgent Host}

omit [UserAgentHost Host] in
theorem HasRegister.of_half (has : before.HasRegister)
    (same : half true after.transactions = half true before.transactions) : after.HasRegister := by
  obtain ⟨transaction, pending, register⟩ := has
  exact ⟨transaction, mem_values_of_half true same.symm (Transaction.isRegister_of_method register)
    pending, register⟩

omit [UserAgentHost Host] in
theorem FlagHolds.leaves (holds : before.FlagHolds) (leaves : LeavesRegistration before after) :
    after.FlagHolds := by
  unfold FlagHolds
  rw [leaves.registration]
  refine holds.trans ⟨fun has => has.of_half leaves.registers, fun has => ?_⟩
  exact has.of_half leaves.registers.symm

theorem FlagHolds.sendRegister (agent : UserAgent Host) (expires : UInt32) (authorization : Bytes)
    (now : Time) : (agent.sendRegister expires authorization now).FlagHolds := by
  rw [sendRegister_eq]
  refine iff_of_true rfl ⟨agent.registerTransaction expires authorization now, ?_, rfl⟩
  exact mem_values_put.mpr (Or.inl rfl)

/-- A final response to a REGISTER either brings another REGISTER, or clears the flag and starts
nothing. -/
theorem onRegisterFinal_some (agent : UserAgent Host) (response : Message) (expires : UInt32)
    (authenticated : Bool) (now : Time) :
    (agent.Reregisters response expires authenticated ∧
      ∃ (earlier : UserAgent Host) (lifetime : UInt32) (line : Bytes),
        agent.onRegisterFinal (some response) expires authenticated now =
          earlier.sendRegister lifetime line now) ∨
    (¬ agent.Reregisters response expires authenticated ∧
      (agent.onRegisterFinal (some response) expires authenticated now).registration.inFlight =
          false ∧
        (agent.onRegisterFinal (some response) expires authenticated now).transactions =
          agent.transactions) := by
  cases answered : (agent.answerChallenge (some response) authenticated).1 with
  | some line =>
    have sent := agent.onRegisterFinal_challenged answered expires now
    exact Or.inl ⟨Or.inl (by rw [answered]; rfl), _, _, _, sent⟩
  | none =>
    obtain ⟨draws, equal⟩ := agent.landed.answerChallenge_draws (some response) authenticated
    have again : agent.Reregisters response expires authenticated ↔
        expires ≠ 0 ∧ agent.registration.wanted = false ∧ isSuccess response.status = true := by
      unfold Reregisters
      rw [answered]
      exact ⟨fun holds => holds.resolve_left nofun, Or.inr⟩
    rw [again]
    unfold onRegisterFinal
    simp only [answerChallenge_landed, answered, equal]
    split
    next zero => exact Or.inr ⟨fun sends => sends.1 zero, rfl, rfl⟩
    next nonzero =>
      split
      next unwanted =>
        rw [Bool.not_eq_true'] at unwanted
        split
        next success => exact Or.inl ⟨⟨nonzero, unwanted, success⟩, _, _, _, rfl⟩
        next failure => exact Or.inr ⟨fun sends => failure sends.2.2, rfl, rfl⟩
      next wanted =>
        refine Or.inr ⟨fun sends => wanted ?_, rfl, rfl⟩
        rw [Bool.not_eq_true']
        exact sends.2.1

/-! ### Responses -/

/-- The flag after the end of a REGISTER by a response. -/
theorem flagHolds_final_iff {transaction : Transaction} {response : Message} {expires : UInt32}
    {authenticated : Bool} (now : Time) :
    ((agent.without transaction).onRegisterFinal (some response) expires authenticated
        now).FlagHolds ↔
      agent.Reregisters response expires authenticated ∨
        ∀ other ∈ agent.transactions.values, other.method = ascii "REGISTER" →
          other.key = transaction.key := by
  have same : (agent.without transaction).Reregisters response expires authenticated ↔
      agent.Reregisters response expires authenticated := by
    unfold Reregisters
    rw [answerChallenge_without]
    exact Iff.rfl
  rcases (agent.without transaction).onRegisterFinal_some response expires authenticated now with
    ⟨again, earlier, lifetime, line, equal⟩ | ⟨lapsed, landed, transactions⟩
  · rw [equal]
    exact iff_of_true (FlagHolds.sendRegister _ _ _ _) (Or.inl (same.mp again))
  · rw [same] at lapsed
    rw [or_iff_right lapsed]
    unfold FlagHolds HasRegister
    rw [landed, transactions]
    constructor
    · intro holds other pending register
      by_contra apart
      have left : ∃ left ∈ (agent.without transaction).transactions.values,
          left.method = ascii "REGISTER" :=
        ⟨other, mem_values_erase.mpr ⟨pending, apart⟩, register⟩
      exact nomatch holds.mpr left
    · intro alone
      refine iff_of_false nofun ?_
      rintro ⟨other, member, register⟩
      obtain ⟨pending, apart⟩ := mem_values_erase.mp member
      exact apart (alone other pending register)

theorem flagHolds_message_iff (holds : agent.FlagHolds) (datagram : Bytes) (now : Time) :
    (agent.onMessage datagram now).FlagHolds ↔ EndsTogether agent (.message datagram now) := by
  by_cases ends : ∃ response transaction expires authenticated,
      agent.Answers datagram response transaction ∧
        transaction.onFinal = .register expires authenticated ∧ 200 ≤ response.status
  · obtain ⟨response, transaction, expires, authenticated, answers, handler, final⟩ := ends
    rw [agent.onMessage_final answers final now, handler]
    show ((agent.without transaction).onRegisterFinal (some response) expires authenticated
      now).FlagHolds ↔ _
    rw [flagHolds_final_iff]
    constructor
    · intro ended other found lifetime proven again kept _
      obtain ⟨rfl, rfl⟩ := answers.unique again
      cases handler.symm.trans kept
      exact ended.imp_right fun alone other pending register =>
        agent.transactions.eq_of_key_eq answers.pending pending (alone other pending register)
    · intro together
      exact (together response transaction expires authenticated answers handler final).imp_right
        fun alone other pending register => congrArg Transaction.key (alone other pending register)
  · refine iff_of_true ?_ fun response transaction expires authenticated answers handler final =>
      absurd ⟨response, transaction, expires, authenticated, answers, handler, final⟩ ends
    rcases agent.onMessage_cases datagram now with leaves |
      ⟨_, transaction, answers, register, _, equal⟩ |
      ⟨response, transaction, expires, authenticated, answers, handler, final, _⟩
    · exact holds.leaves leaves
    · rw [equal]
      have pending : agent.HasRegister :=
        ⟨transaction, answers.pending, Transaction.method_of_isRegister register⟩
      refine iff_of_true (holds.mpr pending)
        ⟨transaction.proceed now, mem_values_put.mpr (Or.inl rfl), ?_⟩
      refine Transaction.method_of_isRegister ?_
      rw [Transaction.proceed_onFinal]
      exact register
    · exact absurd ⟨response, transaction, expires, authenticated, answers, handler, final⟩ ends

/-! ### The timer -/

theorem runFinal_none_log (agent : UserAgent Host) (handler : FinalHandler) (now : Time) :
    Grows (fun action => ∀ packet, action ≠ .sendSip packet) agent.log
      (agent.runFinal handler none now).log := by
  match handler with
  | .register expires authenticated =>
    show Grows _ agent.log (agent.onRegisterFinal none expires authenticated now).log
    rw [onRegisterFinal_none]
    split
    · exact Grows.refl _
    · exact Grows.single _ fun _ => nofun
  | .invite context =>
    show Grows _ agent.log
      (if (agent.callOf context).isSome then agent.endCall .timeout 408 else agent).log
    split
    · unfold endCall
      split
      · exact Grows.refl _
      · dsimp only
        split
        · exact (Grows.single _ fun _ => nofun).trans (Grows.single _ fun _ => nofun)
        · exact Grows.single _ fun _ => nofun
    · exact Grows.refl _
  | .ignore => exact Grows.refl _

theorem expired_log (agent : UserAgent Host) (now : Time) :
    Grows (fun action => ∀ packet, action ≠ .sendSip packet) (agent.retransmit now).log
      (agent.expired now).log := by
  refine loop_keeps (fun current : UserAgent Host => Grows _ (agent.retransmit now).log current.log)
    (agent.expiredKeys now) (fun current key _ grows => ?_) (Grows.refl _)
  refine grows.trans ?_
  unfold expire
  split
  · exact Grows.refl _
  next transaction _ => exact runFinal_none_log _ transaction.onFinal now

theorem hasRegister_expired_iff (now : Time) :
    (agent.expired now).HasRegister ↔ ∃ transaction ∈ agent.transactions.values,
      transaction.method = ascii "REGISTER" ∧ now < transaction.deadline := by
  have method (transaction : Transaction) :
      (transaction.backOff now).method = transaction.method := by
    unfold Transaction.backOff
    split <;> rfl
  constructor
  · rintro ⟨_, left, register⟩
    obtain ⟨old, pending, early, rfl⟩ := (agent.mem_expired now).mp left
    exact ⟨old, pending, (method old).symm.trans register, early⟩
  · rintro ⟨old, pending, register, early⟩
    exact ⟨old.backOff now, (agent.mem_expired now).mpr ⟨old, pending, early, rfl⟩,
      (method old).trans register⟩

theorem refresh_cases (agent : UserAgent Host) (now : Time) :
    agent.refresh now = agent ∨
      agent.registration.inFlight = false ∧ (agent.refresh now).FlagHolds ∧
        ∃ packet, packet.method = some (ascii "REGISTER") ∧
          (agent.refresh now).log = agent.log ++ [.sendSip packet] := by
  unfold refresh
  split
  · exact Or.inl rfl
  · split
    next due =>
      simp only [Bool.and_eq_true, Bool.not_eq_true'] at due
      refine Or.inr ⟨due.2, FlagHolds.sendRegister _ _ _ _, ?_⟩
      rw [sendRegister_eq]
      exact ⟨_, rfl, rfl⟩
    · exact Or.inl rfl

theorem timer_log (agent : UserAgent Host) (now : Time) :
    ∃ rest, ((agent.expired now).awaitAck now).log = agent.log ++
      agent.resent (.timer now) ++ rest ∧
      ∀ action ∈ rest, ¬ action.SendsRegister := by
  obtain ⟨silent, expiredLog, silence⟩ := agent.expired_log now
  obtain ⟨quiet, waitedLog, quietness⟩ :=
    (LeavesRegistration.awaitAck (agent.expired now) now).log
  refine ⟨silent ++ quiet, ?_, fun action member sends => ?_⟩
  · rw [waitedLog, expiredLog, retransmit_log, append_assoc]
    rfl
  · match action with
    | .sendSip packet =>
      rcases mem_append.mp member with early | late
      · exact silence _ early packet rfl
      · exact quietness _ late sends

theorem flagHolds_expired (holds : agent.FlagHolds) {now : Time}
    (together : EndsTogether agent (.timer now)) : (agent.expired now).FlagHolds := by
  have lapses := Lapses.expired now agent
  unfold FlagHolds
  rw [hasRegister_expired_iff]
  by_cases ends : ∃ transaction ∈ agent.transactions.values,
      transaction.onFinal.isRegister = true ∧ transaction.deadline ≤ now
  · rw [lapses.landed ends]
    obtain ⟨lapsed, pending, register, deadline⟩ := ends
    refine iff_of_false nofun ?_
    rintro ⟨other, also, registerToo, early⟩
    exact Int.not_le.mpr early
      (together lapsed pending (Transaction.method_of_isRegister register) deadline other also
        registerToo)
  · rw [lapses.kept ends]
    refine holds.trans ⟨?_, ?_⟩
    · rintro ⟨transaction, pending, register⟩
      refine ⟨transaction, pending, register, Int.not_le.mp fun deadline => ends ?_⟩
      exact ⟨transaction, pending, Transaction.isRegister_of_method register, deadline⟩
    · rintro ⟨transaction, pending, register, -⟩
      exact ⟨transaction, pending, register⟩

theorem inFlightTold_timer_iff (holds : agent.FlagHolds) (now : Time) :
    InFlightTold agent (.timer now) ↔ EndsTogether agent (.timer now) := by
  have lapses := Lapses.expired now agent
  have leaves := LeavesRegistration.awaitAck (agent.expired now) now
  have step : agent.step (.timer now) = ((agent.expired now).awaitAck now).refresh now := rfl
  have refreshed := ((agent.expired now).awaitAck now).refresh_cases now
  obtain ⟨rest, log, quiet⟩ := agent.timer_log now
  constructor
  · intro told lapsed pending register deadline other also registerToo
    by_contra early
    have left : (agent.expired now).HasRegister :=
      (hasRegister_expired_iff now).mpr ⟨other, also, registerToo, Int.not_le.mp early⟩
    rcases refreshed with same | ⟨-, -, packet, named, sent⟩
    · have flag := told.flag
      rw [step, same] at flag
      have raised := flag.mpr (left.of_half leaves.registers)
      rw [leaves.registration, lapses.landed
        ⟨lapsed, pending, Transaction.isRegister_of_method register, deadline⟩] at raised
      cases raised
    · have started : agent.started (.timer now) = rest ++ [.sendSip packet] := by
        refine started_eq ?_
        rw [step, sent, log, append_assoc]
      refine told.alone trivial ⟨.sendSip packet, ?_, named⟩ other
        ⟨also, registerToo, Int.not_le.mp early⟩
      rw [started]
      exact mem_append_right _ (mem_singleton_self _)
  · intro together
    have expired := (flagHolds_expired holds together).leaves leaves
    refine ⟨?_, ?_⟩
    · rw [step]
      rcases refreshed with same | ⟨-, flag, -⟩
      · rw [same]
        exact expired
      · exact flag
    · rintro - ⟨action, member, sends⟩ transaction ⟨pending, register, early⟩
      have left : (agent.expired now).HasRegister :=
        (hasRegister_expired_iff now).mpr ⟨transaction, pending, register, early⟩
      rcases refreshed with same | ⟨landed, -⟩
      · rw [started_eq (by rw [step, same, log])] at member
        exact quiet action member sends
      · have raised := expired.mpr (left.of_half leaves.registers)
        rw [landed] at raised
        cases raised

/-! ### The other operations -/

theorem flagHolds_stopRegistration (holds : agent.FlagHolds) (now : Time) :
    (agent.stopRegistration now).FlagHolds := by
  unfold stopRegistration
  dsimp only
  split
  · exact FlagHolds.sendRegister _ _ _ _
  · exact holds

theorem flagHolds_shutdown (holds : agent.FlagHolds) (now : Time) :
    (agent.shutdown now).FlagHolds := by
  have closing : UserAgent.FlagHolds { agent with shuttingDown := true } := holds
  unfold shutdown
  dsimp only
  split
  · exact flagHolds_stopRegistration closing now
  · exact flagHolds_stopRegistration (closing.leaves (LeavesRegistration.hangup _ _ now)) now

/-- A lost connection ends every REGISTER, and with the last one the flag. -/
theorem flagHolds_onTransportDown (holds : agent.FlagHolds) (now : Time) :
    (agent.onTransportDown now).FlagHolds := by
  have lapses := Lapses.foldl_expire now agent (agent.transactions.values.map Transaction.key)
  have failed : ((agent.transactions.values.map Transaction.key).foldl (expire now)
      agent).FlagHolds := by
    have removed : ¬ ((agent.transactions.values.map Transaction.key).foldl (expire now)
        agent).HasRegister := by
      rintro ⟨transaction, left, -⟩
      obtain ⟨pending, kept⟩ := (agent.mem_foldl_expire now).mp left
      exact kept (mem_map_of_mem pending)
    refine iff_of_false ?_ removed
    rw [Bool.not_eq_true]
    by_cases has : agent.HasRegister
    · obtain ⟨transaction, pending, register⟩ := has
      exact lapses.landed ⟨transaction, pending, Transaction.isRegister_of_method register,
        mem_map_of_mem pending⟩
    · rw [lapses.kept, ← Bool.not_eq_true]
      · exact fun raised => has (holds.mp raised)
      · rintro ⟨transaction, pending, register, -⟩
        exact has ⟨transaction, pending, Transaction.method_of_isRegister register⟩
  unfold onTransportDown
  rw [foldl_runFinal_none_all]
  dsimp only
  split
  · exact failed
  · exact failed

end UserAgent

namespace InFlightTold

variable {agent : UserAgent Host} {op : Op}

theorem of_silent (flag : (agent.step op).FlagHolds) (silent : (agent.step op).log = agent.log)
    (nothing : agent.resent op = []) : InFlightTold agent op := by
  refine ⟨flag, ?_⟩
  rintro - ⟨action, member, -⟩
  have started : agent.started op = [] :=
    started_eq (by rw [silent, nothing, append_nil, append_nil])
  rw [started] at member
  exact absurd member not_mem_nil

theorem of_landed (holds : agent.FlagHolds) (landed : agent.registration.inFlight = false)
    (flag : (agent.step op).FlagHolds) : InFlightTold agent op := by
  refine ⟨flag, ?_⟩
  rintro - - transaction ⟨pending, register, -⟩
  have raised := holds.mpr ⟨transaction, pending, register⟩
  rw [landed] at raised
  cases raised

theorem startRegistration (holds : agent.FlagHolds) (now : Time) :
    InFlightTold agent (.startRegistration now) := by
  have step : agent.step (.startRegistration now) = agent.startRegistration now := rfl
  by_cases closing : agent.shuttingDown = true
  · rw [UserAgent.startRegistration, if_pos closing] at step
    exact of_silent (by rw [step]; exact holds) (congrArg UserAgent.log step) rfl
  · rw [UserAgent.startRegistration, if_neg closing] at step
    cases flying : agent.registration.inFlight with
    | true =>
      rw [flying] at step
      exact of_silent (by rw [step]; exact holds) (by rw [step]; rfl) rfl
    | false =>
      rw [flying] at step
      exact of_landed holds flying (by rw [step]; exact UserAgent.FlagHolds.sendRegister _ _ _ _)

theorem transportUp (holds : agent.FlagHolds) (now : Time) :
    InFlightTold agent (.transportUp now) := by
  have step : agent.step (.transportUp now) = agent.onTransportUp now := rfl
  unfold onTransportUp at step
  split at step
  · exact of_silent (by rw [step]; exact holds) (congrArg UserAgent.log step) rfl
  next ready =>
    have landed : agent.registration.inFlight = false := by
      simp only [Bool.or_eq_true, not_or, Bool.not_eq_true] at ready
      exact ready.2
    exact of_landed holds landed (by rw [step]; exact UserAgent.FlagHolds.sendRegister _ _ _ _)

end InFlightTold

/-- Without an operation that ends one REGISTER and leaves another, the flag stays truthful; with
one it does not. -/
theorem inFlightTold_iff {agent : UserAgent Host} (holds : agent.FlagHolds) (op : Op) :
    InFlightTold agent op ↔ EndsTogether agent op := by
  cases op with
  | message datagram now =>
    rw [← flagHolds_message_iff holds datagram now]
    exact ⟨fun told => told.flag, fun flag => ⟨flag, fun begins => begins.elim⟩⟩
  | timer now => exact inFlightTold_timer_iff holds now
  | startRegistration now => exact iff_of_true (InFlightTold.startRegistration holds now) trivial
  | transportUp now => exact iff_of_true (InFlightTold.transportUp holds now) trivial
  | stopRegistration now =>
    exact iff_of_true ⟨flagHolds_stopRegistration holds now, fun begins => begins.elim⟩
      trivial
  | call id target now =>
    exact iff_of_true ⟨holds.leaves (LeavesRegistration.call agent id target now),
      fun begins => begins.elim⟩ trivial
  | answer id now =>
    exact iff_of_true ⟨holds.leaves (LeavesRegistration.answer agent id now),
      fun begins => begins.elim⟩ trivial
  | reject id status =>
    exact iff_of_true ⟨holds.leaves (LeavesRegistration.reject agent id status),
      fun begins => begins.elim⟩ trivial
  | hangup id now =>
    exact iff_of_true ⟨holds.leaves (LeavesRegistration.hangup agent id now),
      fun begins => begins.elim⟩ trivial
  | shutdown now =>
    exact iff_of_true ⟨flagHolds_shutdown holds now, fun begins => begins.elim⟩ trivial
  | transportDown now =>
    exact iff_of_true ⟨flagHolds_onTransportDown holds now, fun begins => begins.elim⟩
      trivial
  | takeEvents => exact iff_of_true ⟨holds, fun begins => begins.elim⟩ trivial

/-- In every run the in-flight flag is truthful after each operation, and no start, timer or
reconnection sends a REGISTER beside an unanswered one, exactly when no operation of the run ends a
REGISTER, without another one in reply, while others are left pending. -/
theorem inFlight_truthful_iff (config : UserAgentConfig) (host : Host) (random : Random)
    (ops : List Op) :
    StepsMeet UserAgent.step InFlightTold (UserAgent.create config host random) ops ↔
      StepsMeet UserAgent.step EndsTogether (UserAgent.create config host random) ops := by
  have initial : (UserAgent.create config host random).FlagHolds :=
    iff_of_false nofun fun ⟨_, pending, _⟩ => absurd pending not_mem_nil
  exact stepsMeet_iff UserAgent.FlagHolds (fun _ _ _ told => told.flag)
    (fun _ op holds => inFlightTold_iff holds op) initial

/-- An application that stops and starts again while its first REGISTER is pending has an unregister
pending too. The acceptance of the first REGISTER clears the flag, and the next start sends a
REGISTER beside the unregister. -/
theorem restarted_flag_lies :
    ¬ StepsMeet UserAgent.step InFlightTold UserAgent.ideal
      [.startRegistration 0, .stopRegistration 1, .startRegistration 2,
        .message firstAccepted 3] := by
  rintro ⟨-, -, -, told, -⟩
  have lies : ¬ ((((UserAgent.ideal.step (.startRegistration 0)).step (.stopRegistration 1)).step
      (.startRegistration 2)).step (.message firstAccepted 3)).FlagHolds := by
    unfold UserAgent.FlagHolds UserAgent.HasRegister
    decide +kernel
  exact lies told.flag

end KetPhone.Core
