/-
This file asks whether a stopped registration stays stopped: whether no REGISTER
with a non-zero Expires value leaves the agent between a stop and the next start.
A stop does not end the REGISTER that may still be waiting for its answer, and
that transaction is the one thing that can send such a REGISTER again: when its
challenge arrives, and when its retransmission is due. A run after a stop is
silent exactly when neither happens in it.
-/

import KetPhone.UserAgent.Moves

namespace KetPhone.Core

open Sip List UserAgent

variable {Host : Type} [UserAgentHost Host]
variable {agent : UserAgent Host}

/-- Sends a REGISTER with a non-zero Expires value. -/
def Action.Registers : Action → Prop
  | .sendSip packet => packet.Registers
  | _ => False

/-- No REGISTER with a non-zero Expires value was sent between two states. -/
def Silent (before after : UserAgent Host) : Prop :=
  Grows (fun action => ¬ action.Registers) before.log after.log

/-- A start that is not ignored. -/
def EffectiveStart (agent : UserAgent Host) : Op → Prop
  | .startRegistration _ => agent.shuttingDown = false
  | _ => False

/-- The operations that stop the registration. -/
def Op.Stops : Op → Prop
  | .stopRegistration _ => True
  | .shutdown _ => True
  | _ => False

/-- Nothing makes a pending REGISTER with a non-zero Expires value go out once more: no challenge
to it that can be answered, and no timer at which it is due. -/
def Unprovoked (agent : UserAgent Host) : Op → Prop
  | .message datagram _ =>
    ∀ response transaction expires authenticated, agent.Answers datagram response transaction →
      transaction.onFinal = .register expires authenticated → expires ≠ 0 →
        (agent.answerChallenge (some response) authenticated).1 = none
  | .timer now => ∀ transaction ∈ agent.transactions.values, transaction.Registers →
      transaction.due now = false
  | _ => True

instance (action : Action) : Decidable action.Registers :=
  match action with
  | .sendSip packet => inferInstanceAs (Decidable packet.Registers)
  | .openMedia _ => isFalse id
  | .startMedia _ _ => isFalse id
  | .closeMedia => isFalse id
  | .emit _ => isFalse id
  | .begin _ _ _ => isFalse id

theorem Action.Registers.concernsRegistration {action : Action} (registers : action.Registers) :
    action.ConcernsRegistration := by
  match action with
  | .sendSip packet =>
    obtain ⟨value, expires, -⟩ := registers
    exact Packet.method_of_expires expires

/-- Stopped, with nothing sent since an earlier state. -/
structure StaysStopped (before after : UserAgent Host) : Prop where
  wanted : after.registration.wanted = false
  silent : Silent before after

namespace StaysStopped

variable {before after : UserAgent Host}

omit [UserAgentHost Host] in
theorem refl (stopped : before.registration.wanted = false) : StaysStopped before before :=
  ⟨stopped, Grows.refl _⟩

omit [UserAgentHost Host] in
theorem leaves {later : UserAgent Host} (stays : StaysStopped before after)
    (leaves : LeavesRegistration after later) : StaysStopped before later :=
  ⟨by rw [leaves.registration]; exact stays.wanted,
    stays.silent.trans (leaves.log.mono fun _ quiet registers =>
      quiet registers.concernsRegistration)⟩

theorem unregister (stays : StaysStopped before after) (authorization : Bytes) (now : Time) :
    StaysStopped before (after.sendRegister 0 authorization now) := by
  rw [sendRegister_eq]
  refine ⟨stays.wanted, stays.silent.trans (Grows.single _ fun registers => ?_)⟩
  obtain ⟨_, _, handler, nonzero⟩ := Transaction.registers_packet_iff.mp registers
  cases handler
  exact nonzero rfl

theorem stopRegistration (silent : Silent before agent) (now : Time) :
    StaysStopped before (agent.stopRegistration now) := by
  unfold UserAgent.stopRegistration
  dsimp only
  split
  · have stopped : StaysStopped before { agent with registration := { agent.registration with
        wanted := false, nextAttempt := none, registered := false } } := ⟨rfl, silent⟩
    exact stopped.unregister [] now
  · exact ⟨rfl, silent⟩

/-- The end of a REGISTER while stopped: only one with a non-zero Expires value whose challenge can
be answered goes out again. -/
theorem onRegisterFinal (stays : StaysStopped before after) (response : Option Message)
    (expires : UInt32) (authenticated : Bool)
    (quiet : expires = 0 ∨ (after.answerChallenge response authenticated).1 = none) (now : Time) :
    StaysStopped before (after.onRegisterFinal response expires authenticated now) := by
  have challenged :
      StaysStopped before (after.landed.answerChallenge response authenticated).2 := by
    rcases after.landed.answerChallenge_snd response authenticated with same | drawn
    · rw [same]
      exact ⟨stays.wanted, stays.silent⟩
    · rw [drawn]
      exact ⟨stays.wanted, stays.silent⟩
  unfold UserAgent.onRegisterFinal
  dsimp only
  split
  next line answered =>
    rcases quiet with rfl | unanswerable
    · exact challenged.unregister line now
    · rw [UserAgent.answerChallenge_landed, unanswerable] at answered
      cases answered
  · split
    · exact challenged
    · rw [challenged.wanted, Bool.not_false, if_pos rfl]
      split
      · exact challenged.unregister [] now
      · exact challenged

theorem runFinal (stays : StaysStopped before after) (transaction : Transaction) (now : Time) :
    StaysStopped before (after.runFinal transaction.onFinal none now) := by
  cases side : transaction.onFinal.isRegister with
  | false => exact stays.leaves (LeavesRegistration.runFinal side after now)
  | true =>
    obtain ⟨expires, authenticated, handler⟩ := Transaction.exists_register_of_isRegister side
    rw [handler]
    exact stays.onRegisterFinal none expires authenticated (Or.inr rfl) now

theorem expire (stays : StaysStopped before after) (key : Bytes) (now : Time) :
    StaysStopped before (after.expire now key) := by
  unfold UserAgent.expire
  split
  · exact stays
  next transaction _ =>
    have erased : StaysStopped before
        { after with transactions := after.transactions.erase key } :=
      ⟨stays.wanted, stays.silent⟩
    exact erased.runFinal transaction now

theorem onTransportDown (stopped : agent.registration.wanted = false) (now : Time) :
    StaysStopped agent (agent.onTransportDown now) := by
  have empty : StaysStopped agent { agent with transactions := OrderedMap.empty } :=
    ⟨stopped, Grows.refl _⟩
  have lapsed := loop_keeps (StaysStopped agent) agent.transactions.values
    (fun current transaction _ stays => stays.runFinal transaction now) empty
  unfold UserAgent.onTransportDown
  dsimp only
  split
  · exact ⟨lapsed.wanted, lapsed.silent.trans (Grows.single _ id)⟩
  · exact lapsed

theorem onMessage (stopped : agent.registration.wanted = false) {datagram : Bytes} {now : Time}
    (unprovoked : Unprovoked agent (.message datagram now)) :
    StaysStopped agent (agent.onMessage datagram now) := by
  rcases agent.onMessage_cases datagram now with leaves | ⟨_, _, _, _, _, equal⟩ |
    ⟨response, transaction, expires, authenticated, answers, handler, _, equal⟩
  · exact (refl stopped).leaves leaves
  · rw [equal]
    exact ⟨stopped, Grows.refl _⟩
  · rw [equal]
    have erased : StaysStopped agent (agent.without transaction) := ⟨stopped, Grows.refl _⟩
    refine erased.onRegisterFinal (some response) expires authenticated ?_ now
    by_cases zero : expires = 0
    · exact Or.inl zero
    · refine Or.inr ?_
      rw [answerChallenge_without]
      exact unprovoked response transaction expires authenticated answers handler zero

theorem onTimer (stopped : agent.registration.wanted = false) {now : Time}
    (unprovoked : Unprovoked agent (.timer now)) : StaysStopped agent (agent.onTimer now) := by
  have resent : StaysStopped agent (agent.retransmit now) := by
    obtain ⟨host, equal⟩ := agent.retransmit_eq now
    rw [equal]
    refine ⟨stopped, _, rfl, fun action member registers => ?_⟩
    obtain ⟨transaction, due, rfl⟩ := List.mem_map.mp member
    obtain ⟨pending, due⟩ := List.mem_filter.mp due
    rw [unprovoked transaction pending (Transaction.registers_packet_iff.mp registers)] at due
    cases due
  have expired := loop_keeps (StaysStopped agent) (agent.expiredKeys now)
    (fun current key _ stays => stays.expire key now) resent
  have waited := expired.leaves
    (LeavesRegistration.awaitAck _ now)
  unfold UserAgent.onTimer UserAgent.refresh
  dsimp only
  split
  · exact waited
  · rw [waited.wanted, Bool.false_and, Bool.false_and, if_neg Bool.false_ne_true]
    exact waited

theorem shutdown (agent : UserAgent Host) (now : Time) :
    StaysStopped agent (agent.shutdown now) := by
  unfold UserAgent.shutdown
  dsimp only
  split
  · have closing : Silent agent { agent with shuttingDown := true } := Grows.refl _
    exact stopRegistration closing now
  next call _ =>
    have ended : Silent agent
        (UserAgent.hangup call.id now { agent with shuttingDown := true }).2 :=
      (LeavesRegistration.hangup { agent with shuttingDown := true } call.id now).log.mono
        fun _ quiet registers => quiet registers.concernsRegistration
    exact stopRegistration ended now

/-- An operation that does not start the registration and provokes no retry sends no REGISTER with
a non-zero Expires value. -/
theorem step (stopped : agent.registration.wanted = false) {op : Op}
    (unstarted : ¬ EffectiveStart agent op) (unprovoked : Unprovoked agent op) :
    StaysStopped agent (agent.step op) := by
  cases op with
  | startRegistration now =>
    have ignored : agent.shuttingDown = true := (Bool.not_eq_false _).mp unstarted
    have same : agent.step (.startRegistration now) = agent := by
      show agent.startRegistration now = agent
      unfold startRegistration
      rw [if_pos ignored]
    rw [same]
    exact refl stopped
  | stopRegistration now => exact stopRegistration (Grows.refl _) now
  | call id target now => exact (refl stopped).leaves (LeavesRegistration.call agent id target now)
  | answer id now => exact (refl stopped).leaves (LeavesRegistration.answer agent id now)
  | reject id status => exact (refl stopped).leaves (LeavesRegistration.reject agent id status)
  | hangup id now => exact (refl stopped).leaves (LeavesRegistration.hangup agent id now)
  | shutdown now => exact shutdown agent now
  | transportDown now => exact onTransportDown stopped now
  | transportUp now =>
    have same : agent.step (.transportUp now) = agent := by
      show agent.onTransportUp now = agent
      unfold onTransportUp
      rw [stopped, Bool.not_false, Bool.or_true, Bool.true_or, if_pos rfl]
    rw [same]
    exact refl stopped
  | message datagram now => exact onMessage stopped unprovoked
  | timer now => exact onTimer stopped unprovoked
  | takeEvents => exact ⟨stopped, Grows.refl _⟩

end StaysStopped

/-- A provoked retry is sent. -/
theorem not_silent_of_provoked {op : Op} (provoked : ¬ Unprovoked agent op) :
    ¬ Silent agent (agent.step op) := by
  intro silent
  apply provoked
  match op with
  | .message datagram now =>
    intro response transaction expires authenticated answers handler nonzero
    rw [Option.eq_none_iff_forall_ne_some]
    intro line answered
    have sent : agent.step (.message datagram now) =
        ((agent.without transaction).landed.answerChallenge (some response)
          authenticated).2.sendRegister expires line now := by
      show agent.onMessage datagram now = _
      rw [agent.onMessage_final answers (status_of_answerChallenge answered) now, handler]
      exact (agent.without transaction).onRegisterFinal_challenged
        ((agent.answerChallenge_without ..).trans answered) expires now
    rw [Silent, sent, sendRegister_eq] at silent
    have challenged := ((RegisterSide.refl (agent.without transaction)).landed.answerChallenge
      (some response) authenticated).grew
    obtain ⟨-, added, equal, quiet⟩ := silent.split challenged (Grows.single _ trivial)
    rw [append_cancel_left_eq] at equal
    refine quiet _ (equal ▸ mem_singleton_self _) ?_
    exact Transaction.registers_packet_iff.mpr ⟨expires, _, rfl, nonzero⟩
  | .timer now =>
    intro transaction pending registers
    rw [← Bool.not_eq_true]
    intro due
    obtain ⟨⟨added, equal, quiet⟩, -⟩ := silent.split
      ⟨_, agent.retransmit_log now, fun _ _ => trivial⟩ (Moves.onTimer agent now).grew
    rw [agent.retransmit_log now, append_cancel_left_eq] at equal
    refine quiet (.sendSip transaction.packet) ?_ (Transaction.registers_packet_iff.mpr registers)
    rw [← equal]
    exact mem_map.mpr ⟨transaction, mem_filter.mpr ⟨pending, due⟩, rfl⟩
  | .startRegistration _ => trivial
  | .stopRegistration _ => trivial
  | .call _ _ _ => trivial
  | .answer _ _ => trivial
  | .reject _ _ => trivial
  | .hangup _ _ => trivial
  | .shutdown _ => trivial
  | .transportDown _ => trivial
  | .transportUp _ => trivial
  | .takeEvents => trivial

theorem run_silent_iff (stopped : agent.registration.wanted = false) {ops : List Op}
    (unstarted : StepsMeet UserAgent.step (fun agent op => ¬ EffectiveStart agent op) agent ops) :
    Silent agent (run UserAgent.step agent ops) ↔
      StepsMeet UserAgent.step Unprovoked agent ops := by
  induction ops generalizing agent with
  | nil => exact ⟨fun _ => trivial, fun _ => Grows.refl _⟩
  | cons op ops hypothesis =>
    rw [run_cons]
    constructor
    · intro silent
      obtain ⟨first, rest⟩ := Grows.split silent (Moves.step agent op).grew
        (Moves.run (agent.step op) ops).grew
      have unprovoked : Unprovoked agent op := by
        by_contra provoked
        exact not_silent_of_provoked provoked first
      have stays := StaysStopped.step stopped unstarted.1 unprovoked
      exact ⟨unprovoked, (hypothesis stays.wanted unstarted.2).mp rest⟩
    · rintro ⟨unprovoked, rest⟩
      have stays := StaysStopped.step stopped unstarted.1 unprovoked
      exact stays.silent.trans ((hypothesis stays.wanted unstarted.2).mpr rest)

/-- After a stop and until the next effective start, a run sends no REGISTER with a non-zero
Expires value exactly when none of its steps provokes the REGISTER left pending. -/
theorem stop_sticks_iff (config : UserAgentConfig) (host : Host) (random : Random)
    (before : List Op) (stop : Op) (stops : stop.Stops) (after : List Op)
    (unstarted : StepsMeet UserAgent.step (fun agent op => ¬ EffectiveStart agent op)
      (run UserAgent.step (UserAgent.create config host random) (before ++ [stop])) after) :
    Silent (run UserAgent.step (UserAgent.create config host random) (before ++ [stop]))
        (run UserAgent.step (UserAgent.create config host random) (before ++ [stop] ++ after)) ↔
      StepsMeet UserAgent.step Unprovoked
        (run UserAgent.step (UserAgent.create config host random) (before ++ [stop])) after := by
  have stopped : (run UserAgent.step (UserAgent.create config host random)
      (before ++ [stop])).registration.wanted = false := by
    rw [run_append, run_cons, run_nil]
    match stop with
    | .stopRegistration now => exact (StaysStopped.stopRegistration (Grows.refl _) now).wanted
    | .shutdown now => exact (StaysStopped.shutdown _ now).wanted
  rw [run_append _ _ (before ++ [stop]) after]
  exact run_silent_iff stopped unstarted

/-- Registered or not, a stopped agent that reconnects stays silent. -/
theorem reconnected_silent :
    Silent (run UserAgent.step UserAgent.ideal [.startRegistration 0, .stopRegistration 1])
      (run UserAgent.step UserAgent.ideal
        [.startRegistration 0, .stopRegistration 1, .transportDown 2, .transportUp 3]) :=
  (stop_sticks_iff _ _ _ [.startRegistration 0] (.stopRegistration 1) trivial
    [.transportDown 2, .transportUp 3] ⟨id, id, trivial⟩).mpr ⟨trivial, trivial, trivial⟩

/-- The challenge to the first REGISTER of `UserAgent.ideal`. -/
def lateChallenge : Bytes :=
  registerAnswered "401 Unauthorized" "z9hG4bK2" "1"
    "WWW-Authenticate: Digest realm=\"ketphone\", nonce=\"n\"\r\n"

/-- A challenge that arrives after the stop makes the agent register all the same. -/
theorem lateChallenge_not_silent :
    ¬ Silent (run UserAgent.step UserAgent.ideal [.startRegistration 0, .stopRegistration 1])
      (run UserAgent.step UserAgent.ideal
        [.startRegistration 0, .stopRegistration 1, .message lateChallenge 2]) := by
  intro silent
  obtain ⟨action, member, registers⟩ : ∃ action ∈ (run UserAgent.step UserAgent.ideal
      [.startRegistration 0, .stopRegistration 1, .message lateChallenge 2]).log.drop
        (run UserAgent.step UserAgent.ideal
          [.startRegistration 0, .stopRegistration 1]).log.length, action.Registers := by
    decide +kernel
  exact silent.of_mem_drop member registers

end KetPhone.Core
