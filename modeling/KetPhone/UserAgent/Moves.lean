/-
This file breaks every operation of the user agent into moves, small changes of
which only one sends a REGISTER. What each move keeps, every operation and every
run keeps. The first such facts are that the log only grows, and that the books of
the REGISTERs are right: a pending one was sent, on a branch drawn for it.
-/

import KetPhone.UserAgent.Branches
import KetPhone.UserAgent.Conduct
import Mathlib.Logic.Relation

namespace KetPhone.Core

open Sip List OrderedMap UserAgent

variable {Host : Type}

/-- The moves that every operation is made of, as far as the registration is concerned. -/
inductive Move [UserAgentHost Host] : UserAgent Host → UserAgent Host → Prop
  | leaves {before after : UserAgent Host} (same : LeavesRegistration before after) :
    Move before after
  | close (agent : UserAgent Host) : Move agent { agent with shuttingDown := true }
  | draw (agent : UserAgent Host) : Move agent agent.drawn
  | set (agent : UserAgent Host) (registration : Registration) :
      Move agent { agent with registration }
  | report (agent : UserAgent Host) (status : Int) :
    Move agent (agent.emit { kind := .registration, status })
  | erase (agent : UserAgent Host) (key : Bytes) :
    Move agent { agent with transactions := agent.transactions.erase key }
  | clear (agent : UserAgent Host) : Move agent { agent with transactions := OrderedMap.empty }
  | proceed (agent : UserAgent Host) (transaction : Transaction) (now : Time)
      (pending : transaction ∈ agent.transactions.values) :
    Move agent { agent with transactions := agent.transactions.put (transaction.proceed now) }
  | retransmit (agent : UserAgent Host) (now : Time) : Move agent (agent.retransmit now)
  | send (agent : UserAgent Host) (expires : UInt32) (authorization : Bytes) (now : Time) :
    Move agent (agent.sendRegister expires authorization now)

/-- A sequence of moves. -/
abbrev Moves [UserAgentHost Host] : UserAgent Host → UserAgent Host → Prop :=
  Relation.ReflTransGen Move

namespace Moves

variable [UserAgentHost Host] {before after : UserAgent Host}

theorem registers (moves : Moves before after) {later : UserAgent Host}
    (side : RegisterSide after later) : Moves before later := by
  induction side with
  | refl => exact moves
  | drawn _ hypothesis => exact hypothesis.tail (.draw _)
  | setRegistration _ _ _ _ hypothesis => exact hypothesis.tail (.set _ _)
  | report _ _ hypothesis => exact hypothesis.tail (.report _ _)
  | erase _ _ _ hypothesis => exact hypothesis.tail (.erase _ _)
  | close _ hypothesis => exact hypothesis.tail (.close _)
  | proceed _ pending _ _ hypothesis => exact hypothesis.tail (.proceed _ _ _ pending)
  | sendRegister _ _ _ _ _ hypothesis => exact hypothesis.tail (.send _ _ _ _)

theorem onRegisterFinal (moves : Moves before after) (response : Option Message)
    (received : ∀ message, response = some message → Received message) (expires : UInt32)
    (authenticated : Bool) (now : Time) :
    Moves before (after.onRegisterFinal response expires authenticated now) :=
  moves.registers
    ((RegisterSide.refl after).onRegisterFinal response received expires authenticated now)

theorem runFinal (moves : Moves before after) (handler : FinalHandler) (now : Time) :
    Moves before (after.runFinal handler none now) := by
  cases side : handler.isRegister with
  | false => exact moves.tail (.leaves (LeavesRegistration.runFinal side after now))
  | true =>
    match handler with
    | .register expires authenticated =>
      exact moves.onRegisterFinal none nofun expires authenticated now

theorem expire (moves : Moves before after) (now : Time) (key : Bytes) :
    Moves before (after.expire now key) := by
  unfold UserAgent.expire
  split
  · exact moves
  · have erased : Moves before { after with transactions := after.transactions.erase key } :=
      moves.tail (.erase after key)
    exact erased.runFinal _ now

variable (agent : UserAgent Host)

theorem shutdown (now : Time) : Moves agent (agent.shutdown now) := by
  have closing : Moves agent { agent with shuttingDown := true } := .single (.close agent)
  unfold UserAgent.shutdown
  dsimp only
  split
  · exact closing.registers ((RegisterSide.refl _).stopRegistration now)
  next call _ =>
    have ended : Moves agent (UserAgent.hangup call.id now { agent with shuttingDown := true }).2 :=
      closing.tail (.leaves (LeavesRegistration.hangup _ _ now))
    exact ended.registers ((RegisterSide.refl _).stopRegistration now)

theorem onTransportDown (now : Time) : Moves agent (agent.onTransportDown now) := by
  have empty : Moves agent { agent with transactions := OrderedMap.empty } := .single (.clear agent)
  have failed := loop_keeps (Moves agent) agent.transactions.values
    (fun _ transaction _ moves => moves.runFinal transaction.onFinal now) empty
  unfold UserAgent.onTransportDown
  dsimp only
  split
  · exact (failed.tail (.set _ _)).tail (.report _ _)
  · exact failed

theorem onMessage (datagram : Bytes) (now : Time) :
    Moves agent (agent.onMessage datagram now) := by
  rcases agent.onMessage_cases datagram now with leaves |
    ⟨_, transaction, answers, _, _, equal⟩ |
    ⟨response, transaction, expires, authenticated, answers, _, _, equal⟩
  · exact .single (.leaves leaves)
  · rw [equal]
    obtain ⟨-, -, key, -, found⟩ := answers
    exact .single (.proceed agent transaction now (find_eq_some_iff.mp found).1)
  · rw [equal]
    have erased : Moves agent (agent.without transaction) := .single (.erase agent _)
    refine erased.onRegisterFinal (some response) ?_ expires authenticated now
    rintro _ ⟨⟩
    exact ⟨datagram, answers.1⟩

theorem onTimer (now : Time) : Moves (agent.retransmit now) (agent.onTimer now) := by
  have expired := loop_keeps (Moves (agent.retransmit now)) (agent.expiredKeys now)
    (fun _ key _ moves => moves.expire now key) .refl
  have waited := expired.tail (.leaves (LeavesRegistration.awaitAck _ now))
  exact registers waited ((RegisterSide.refl _).refresh now)

/-- Every operation is a sequence of moves. -/
theorem step (op : Op) : Moves agent (agent.step op) := by
  cases op with
  | startRegistration now =>
    exact registers .refl ((RegisterSide.refl agent).startRegistration now)
  | stopRegistration now =>
    exact registers .refl ((RegisterSide.refl agent).stopRegistration now)
  | call id target now => exact .single (.leaves (LeavesRegistration.call agent id target now))
  | answer id now => exact .single (.leaves (LeavesRegistration.answer agent id now))
  | reject id status => exact .single (.leaves (LeavesRegistration.reject agent id status))
  | hangup id now => exact .single (.leaves (LeavesRegistration.hangup agent id now))
  | shutdown now => exact shutdown agent now
  | transportDown now => exact onTransportDown agent now
  | transportUp now => exact registers .refl ((RegisterSide.refl agent).onTransportUp now)
  | message datagram now => exact onMessage agent datagram now
  | timer now => exact .head (.retransmit agent now) (onTimer agent now)
  | takeEvents =>
    have same : LeavesRegistration agent agent.takeEvents.2 :=
      { LeavesRegistration.refl agent with }
    exact .single (.leaves same)

theorem run (ops : List Op) : Moves agent (run UserAgent.step agent ops) :=
  run_relates Moves (fun _ => .refl) Relation.ReflTransGen.trans
    (fun state op => Moves.step state op) agent ops

end Moves

/-! ### What moves keep -/

section Books

variable [UserAgentHost Host] {before after : UserAgent Host}

theorem Moves.keep {invariant : UserAgent Host → Prop}
    (kept : ∀ {before after : UserAgent Host}, Move before after → invariant before →
      invariant after)
    (moves : Moves before after) (holds : invariant before) : invariant after := by
  induction moves with
  | refl => exact holds
  | tail _ move hypothesis => exact kept move hypothesis

theorem Move.grew (move : Move before after) : Grows (fun _ => True) before.log after.log := by
  cases move with
  | leaves same => exact same.grew
  | close => exact Grows.refl _
  | draw => exact Grows.refl _
  | set => exact Grows.refl _
  | report => exact Grows.single _ trivial
  | erase => exact Grows.refl _
  | clear => exact Grows.refl _
  | proceed => exact Grows.refl _
  | retransmit now => exact ⟨_, before.retransmit_log now, fun _ _ => trivial⟩
  | send expires authorization now =>
    rw [sendRegister_eq]
    exact Grows.single _ trivial

theorem Moves.grew (moves : Moves before after) : Grows (fun _ => True) before.log after.log := by
  induction moves with
  | refl => exact Grows.refl _
  | tail _ move hypothesis => exact hypothesis.trans move.grew

/-- The parts of the state that no operation changes, and the draws, which only go on. -/
structure Continues (before after : UserAgent Host) : Prop where
  config : after.config = before.config
  random : after.random = before.random
  draws : before.draws ≤ after.draws

theorem Move.continues (move : Move before after) : Continues before after := by
  cases move with
  | leaves same => exact ⟨same.config, same.random, same.draws⟩
  | close => exact ⟨rfl, rfl, le_rfl⟩
  | draw => exact ⟨rfl, rfl, Nat.le_succ _⟩
  | set => exact ⟨rfl, rfl, le_rfl⟩
  | report => exact ⟨rfl, rfl, le_rfl⟩
  | erase => exact ⟨rfl, rfl, le_rfl⟩
  | clear => exact ⟨rfl, rfl, le_rfl⟩
  | proceed => exact ⟨rfl, rfl, le_rfl⟩
  | retransmit now =>
    obtain ⟨host, equal⟩ := before.retransmit_eq now
    rw [equal]
    exact ⟨rfl, rfl, le_rfl⟩
  | send => exact ⟨rfl, rfl, Nat.le_succ _⟩

theorem Moves.continues (moves : Moves before after) : Continues before after := by
  induction moves with
  | refl => exact ⟨rfl, rfl, le_rfl⟩
  | tail _ move hypothesis =>
    exact ⟨move.continues.config.trans hypothesis.config,
      move.continues.random.trans hypothesis.random,
      hypothesis.draws.trans move.continues.draws⟩

/-- The books of the REGISTERs: a pending one was sent, each on a branch of its own. -/
structure Booked (agent : UserAgent Host) : Prop where
  sent : ∀ transaction ∈ agent.transactions.values, transaction.onFinal.isRegister = true →
    .sendSip transaction.packet ∈ agent.log
  branched : Branched (ascii "REGISTER") agent

omit [UserAgentHost Host] in
theorem Booked.leaves (booked : Booked before) (same : LeavesRegistration before after) :
    Booked after where
  sent := fun transaction pending register =>
    same.log.mem_of_mem (booked.sent transaction
      (mem_values_of_half true same.registers register pending) register)
  branched := booked.branched.resend same.random same.draws fun _ _ sent register =>
    (same.log.mem sent).resolve_right fun new => new (congrArg some register)

theorem Booked.retransmit (booked : Booked before) (now : Time) :
    Booked (before.retransmit now) := by
  obtain ⟨host, equal⟩ := before.retransmit_eq now
  rw [equal]
  refine ⟨fun transaction pending register => ?_,
    booked.branched.resend rfl le_rfl fun request branch sent register => ?_⟩
  · obtain ⟨old, member, rfl⟩ := mem_map.mp pending
    rw [Transaction.backOff_onFinal] at register
    rw [Transaction.backOff_packet]
    exact mem_append_left _ (booked.sent old member register)
  · rcases mem_append.mp sent with old | again
    · exact old
    · obtain ⟨transaction, due, packet⟩ := mem_map.mp again
      obtain ⟨pending, -⟩ := mem_filter.mp due
      cases packet
      exact booked.sent transaction pending (Transaction.isRegister_of_method register)

theorem Booked.send (booked : Booked before) (expires : UInt32) (authorization : Bytes)
    (now : Time) : Booked (before.sendRegister expires authorization now) := by
  rw [sendRegister_eq]
  refine ⟨fun transaction pending register => ?_, booked.branched.send rfl rfl rfl⟩
  rcases mem_values_put.mp pending with rfl | ⟨-, old⟩
  · exact mem_append_right _ (mem_singleton_self _)
  · exact mem_append_left _ (booked.sent transaction old register)

theorem Booked.move (move : Move before after) (booked : Booked before) : Booked after := by
  cases move with
  | leaves same => exact booked.leaves same
  | close => exact ⟨booked.sent, booked.branched.resend rfl le_rfl fun _ _ sent _ => sent⟩
  | draw => exact ⟨booked.sent, booked.branched.resend rfl (Nat.le_succ _) fun _ _ sent _ => sent⟩
  | set => exact ⟨booked.sent, booked.branched.resend rfl le_rfl fun _ _ sent _ => sent⟩
  | report status =>
    refine ⟨fun transaction pending register =>
      mem_append_left _ (booked.sent transaction pending register),
      booked.branched.resend rfl le_rfl fun request branch sent _ => ?_⟩
    rcases mem_append.mp sent with old | new
    · exact old
    · cases mem_singleton.mp new
  | erase key =>
    exact ⟨fun transaction pending => booked.sent transaction (mem_of_mem_filter pending),
      booked.branched.resend rfl le_rfl fun _ _ sent _ => sent⟩
  | clear =>
    exact ⟨fun _ pending => absurd pending not_mem_nil,
      booked.branched.resend rfl le_rfl fun _ _ sent _ => sent⟩
  | proceed transaction now pending =>
    refine ⟨fun other member register => ?_,
      booked.branched.resend rfl le_rfl fun _ _ sent _ => sent⟩
    rcases mem_values_put.mp member with rfl | ⟨-, old⟩
    · rw [Transaction.proceed_onFinal] at register
      rw [Transaction.proceed_packet]
      exact booked.sent transaction pending register
    · exact booked.sent other old register
  | retransmit now => exact booked.retransmit now
  | send expires authorization now => exact booked.send expires authorization now

omit [UserAgentHost Host] in
theorem Booked.create (config : UserAgentConfig) (host : Host) (random : Random) :
    Booked (UserAgent.create config host random) :=
  ⟨fun _ pending => absurd pending not_mem_nil, Branched.of_silent rfl⟩

omit [UserAgentHost Host] in
/-- With distinct branches a new REGISTER takes the place of no pending one. -/
theorem Booked.key_ne (booked : Booked before) {later : UserAgent Host}
    (random : later.random = before.random) (draws : before.draws ≤ later.draws)
    (distinct : later.random.Distinct (later.draws + 1)) {transaction : Transaction}
    (pending : transaction ∈ before.transactions.values)
    (register : transaction.onFinal.isRegister = true) (expires : UInt32) (authorization : Bytes)
    (now : Time) :
    transaction.key ≠ (later.registerTransaction expires authorization now).key := by
  intro same
  have method := Transaction.method_of_isRegister register
  obtain ⟨draw, earlier, equal⟩ := booked.branched.drawn transaction.request transaction.branch
    (booked.sent transaction pending register) method
  have branch : transaction.branch = later.random.branch later.draws := by
    unfold Transaction.key transactionKey at same
    rw [method] at same
    exact append_cancel_right (append_cancel_right same)
  have drawn := distinct draw later.draws (by omega) (Nat.lt_succ_self _)
    (by rw [random, ← equal, branch, random])
  omega

end Books

end KetPhone.Core
