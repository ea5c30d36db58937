/-
This file asks whether the timer can make the network thread spin. The thread
sleeps until `next_deadline`, so after `on_timer` that time has to lie ahead. It
does for every transaction and for a call that waits for its ACK, because no
interval of theirs is ever zero. The next attempt to register is the exception: it
stays in the past for as long as `in_flight` holds it back, and two REGISTERs that
overlap can leave the flag set behind an attempt that is due.
-/

import KetPhone.UserAgent.CallSteps
import KetPhone.UserAgent.Moves

namespace KetPhone.Core

open Sip List OrderedMap UserAgent

variable {Host : Type}

/-! ### Intervals -/

namespace Transaction

variable {transaction : Transaction} {now : Time}

theorem proceed_interval_pos (positive : 0 < transaction.interval) :
    0 < (transaction.proceed now).interval := by
  unfold proceed
  split
  · exact positive
  · exact (by decide : 0 < kT2)

theorem backOff_interval_pos (positive : 0 < transaction.interval) :
    0 < (transaction.backOff now).interval := by
  have twice : 0 < transaction.interval * 2 := Int.mul_pos positive (by decide)
  unfold backOff
  split
  · dsimp only
    split
    · exact twice
    · exact Int.lt_min.mpr ⟨twice, by decide⟩
  · exact positive

theorem backOff_deadline : (transaction.backOff now).deadline = transaction.deadline := by
  unfold backOff
  split <;> rfl

theorem backOff_retransmitAt (positive : 0 < transaction.interval)
    (early : now < transaction.deadline)
    (again : (transaction.backOff now).retransmitting = true) :
    now < (transaction.backOff now).retransmitAt := by
  have paced : 0 < (transaction.backOff now).interval := backOff_interval_pos positive
  unfold backOff at again paced ⊢
  split at again
  next due =>
    rw [if_pos due] at paced ⊢
    exact Int.lt_add_of_pos_right now paced
  next idle =>
    rw [if_neg idle]
    unfold due at idle
    rw [decide_eq_true early, again, Bool.true_and, Bool.true_and, decide_eq_true_iff] at idle
    exact Int.not_le.mp idle

end Transaction

/-- No request of one side, the registration's or the calls', is sent again without a pause. -/
def Paced (register : Bool) (transactions : OrderedMap Transaction.key) : Prop :=
  ∀ transaction ∈ transactions.values, transaction.onFinal.isRegister = register →
    0 < transaction.interval

namespace Paced

variable {register : Bool} {transactions others : OrderedMap Transaction.key}
  {transaction : Transaction} (paced : Paced register transactions)

include paced

theorem half (same : Core.half register others = Core.half register transactions) :
    Paced register others :=
  fun other member side => paced other (mem_values_of_half register same side member) side

theorem put (interval : transaction.onFinal.isRegister = register → 0 < transaction.interval) :
    Paced register (transactions.put transaction) := by
  intro other member side
  rcases mem_values_put.mp member with rfl | ⟨-, old⟩
  · exact interval side
  · exact paced other old side

theorem erase (key : Bytes) : Paced register (transactions.erase key) :=
  fun other member => paced other (mem_values_erase.mp member).1

theorem proceed (pending : transaction ∈ transactions.values) (now : Time) :
    Paced register (transactions.put (transaction.proceed now)) := by
  refine paced.put fun side => ?_
  rw [Transaction.proceed_onFinal] at side
  exact Transaction.proceed_interval_pos (paced transaction pending side)

end Paced

section Pacing

variable [UserAgentHost Host] {before after : UserAgent Host}

theorem Paced.retransmit {register : Bool} (paced : Paced register before.transactions)
    (now : Time) : Paced register (before.retransmit now).transactions := by
  intro transaction pending side
  obtain ⟨old, member, rfl⟩ := (before.mem_retransmit now).mp pending
  rw [Transaction.backOff_onFinal] at side
  exact Transaction.backOff_interval_pos (paced old member side)

theorem Move.paced (move : Move before after) (paced : Paced true before.transactions) :
    Paced true after.transactions := by
  cases move with
  | leaves same => exact paced.half same.registers
  | close => exact paced
  | draw => exact paced
  | set => exact paced
  | report => exact paced
  | erase key => exact paced.erase key
  | clear => exact fun _ pending => absurd pending not_mem_nil
  | proceed old now member => exact paced.proceed member now
  | retransmit now => exact paced.retransmit now
  | send expires authorization now =>
    rw [sendRegister_eq]
    exact paced.put fun _ => (by decide : 0 < kT1)

/-- No request of a call and no answer to one is sent again without a pause. -/
structure UserAgent.CallsPaced (agent : UserAgent Host) : Prop where
  requests : Paced false agent.transactions
  answer : ∀ call, agent.current = some call → call.state = .answering → 0 < call.resendInterval

theorem UserAgent.CallsPaced.of_does {current : Option Call} {pending : OrderedMap Transaction.key}
    {added : List Action} (does : Does before after current pending added)
    (requests : Paced false pending)
    (answer : ∀ call, current = some call → call.state = .answering → 0 < call.resendInterval) :
    after.CallsPaced :=
  ⟨does.transactions ▸ requests, does.current ▸ answer⟩

omit [UserAgentHost Host] in
theorem Transaction.Begun.interval_pos {transaction : Transaction} {request : Request}
    {branch : Bytes} {onFinal : FinalHandler} (begun : transaction.Begun request branch onFinal) :
    transaction.onFinal.isRegister = false → 0 < transaction.interval := by
  intro _
  rw [begun.interval]
  decide

theorem UserAgent.CallsPaced.retransmit {agent : UserAgent Host} (paced : agent.CallsPaced)
    (now : Time) : (agent.retransmit now).CallsPaced where
  requests := paced.requests.retransmit now
  answer := by
    obtain ⟨host, equal⟩ := agent.retransmit_eq now
    rw [equal]
    exact paced.answer

theorem CallTurn.callsPaced {cause : Cause} {added : List Action}
    (turn : CallTurn cause added before after) (paced : before.CallsPaced) :
    after.CallsPaced := by
  have requests := paced.requests
  -- the call is gone, is another one, or waits for its ACK as it did
  have gone : ∀ call : Call, none = some call → call.state = .answering →
      0 < call.resendInterval := fun _ absent => nomatch absent
  have apart {next : Call} (settled : next.state ≠ .answering) :
      ∀ call : Call, some next = some call → call.state = .answering →
        0 < call.resendInterval := by
    rintro _ ⟨⟩ answering
    exact absurd answering settled
  have same {call next : Call} (present : before.current = some call)
      (state : next.state = call.state) (interval : next.resendInterval = call.resendInterval) :
      ∀ call : Call, some next = some call → call.state = .answering →
        0 < call.resendInterval := by
    rintro _ ⟨⟩ answering
    rw [interval]
    exact paced.answer call present (state ▸ answering)
  cases turn with
  | rests does => exact .of_does does requests paced.answer
  | replies _ does => exact .of_does does requests paced.answer
  | acknowledges _ _ does => exact .of_does does requests paced.answer
  | proceeds heard _ _ does => exact .of_does does (requests.proceed heard.pending _) paced.answer
  | progresses heard _ present _ _ _ _ does =>
    exact .of_does does (requests.proceed heard.pending _) (same present rfl rfl)
  | cancelsLate heard _ present _ _ _ _ _ begun does =>
    exact .of_does does ((requests.proceed heard.pending _).put begun.interval_pos)
      (same present rfl rfl)
  | concludes _ _ does => exact .of_does does (requests.erase _) paced.answer
  | forgets _ _ _ _ does => exact .of_does does (requests.erase _) paced.answer
  | parts _ _ _ _ _ begun does =>
    exact .of_does does ((requests.erase _).put begun.interval_pos) paced.answer
  | fails _ _ _ _ does => exact .of_does does (requests.erase _) gone
  | retries _ _ own _ _ _ begun does =>
    exact .of_does does ((requests.erase _).put begun.interval_pos)
      (same (callOf_eq_some own).1 rfl rfl)
  | connects _ _ _ _ _ _ _ does => exact .of_does does (requests.erase _) (apart nofun)
  | drops _ _ _ _ _ _ begun does =>
    exact .of_does does ((requests.erase _).put begun.interval_pos) gone
  | dialFails _ _ _ does => exact .of_does does requests gone
  | dials _ _ dialling _ begun does =>
    refine .of_does does (requests.put begun.interval_pos) (apart fun answering => ?_)
    exact nomatch dialling.state.symm.trans answering
  | rings _ _ _ does => exact .of_does does requests (apart nofun)
  | reinvites _ same' _ does =>
    exact .of_does does requests (same (sameCall_eq_some same').1 rfl rfl)
  | confirms _ _ _ _ does => exact .of_does does requests (apart nofun)
  | hearsBye _ _ does => exact .of_does does requests gone
  | hearsCancel _ _ _ _ does => exact .of_does does requests gone
  | rejects _ _ _ does => exact .of_does does requests gone
  | answerFails _ _ _ _ does => exact .of_does does requests gone
  | accepts _ _ _ _ does =>
    refine .of_does does requests ?_
    rintro _ ⟨⟩ _
    exact (by decide : 0 < kT1)
  | resends present answering _ does =>
    refine .of_does does requests ?_
    rintro _ ⟨⟩ _
    have positive := paced.answer _ present answering
    exact Int.lt_min.mpr ⟨Int.mul_pos positive (by decide), by decide⟩
  | givesUp present _ _ _ does => exact .of_does does requests (same present rfl rfl)
  | cancels present _ _ _ _ begun does =>
    exact .of_does does (requests.put begun.interval_pos) (same present rfl rfl)
  | abandons _ _ _ does => exact .of_does does requests gone
  | saysBye _ _ begun does => exact .of_does does (requests.put begun.interval_pos) gone

theorem CallStep.callsPaced {cause : Cause} {added : List Action}
    (step : CallStep cause added before after) (paced : before.CallsPaced) :
    after.CallsPaced := by
  cases step with
  | registers side =>
    exact ⟨paced.requests.half side.frame.calls, side.frame.current ▸ paced.answer⟩
  | calls turn => exact turn.callsPaced paced

end Pacing

/-! ### After the timer -/

/-- The registration waits for an attempt that is due, and the flag holds it back. -/
def Registration.HeldBack (registration : Registration) (now : Time) : Prop :=
  registration.wanted = true ∧ registration.inFlight = true ∧
    ∃ attempt, registration.nextAttempt = some attempt ∧ attempt ≤ now

/-- The attempt to register is held back, and no REGISTER is over that would let it go. -/
def UserAgent.Spins (agent : UserAgent Host) (now : Time) : Prop :=
  agent.registration.HeldBack now ∧ ∀ transaction ∈ agent.transactions.values,
    transaction.method = ascii "REGISTER" → now < transaction.deadline

/-- Nothing is due for a transaction. -/
def Transaction.Sleeps (now : Time) (transaction : Transaction) : Prop :=
  now < transaction.deadline ∧ (transaction.retransmitting = true → now < transaction.retransmitAt)

section Timer

variable [UserAgentHost Host] {agent : UserAgent Host} {now : Time}

theorem sleeps_of_expired (registers : Paced true agent.transactions)
    (calls : Paced false agent.transactions) {transaction : Transaction}
    (pending : transaction ∈ (agent.expired now).transactions.values) : transaction.Sleeps now := by
  obtain ⟨old, member, early, rfl⟩ := (agent.mem_expired now).mp pending
  have positive : 0 < old.interval := by
    cases side : old.onFinal.isRegister with
    | true => exact registers old member side
    | false => exact calls old member side
  refine ⟨?_, Transaction.backOff_retransmitAt positive early⟩
  rw [Transaction.backOff_deadline]
  exact early

theorem UserAgent.CallsPaced.expired (paced : agent.CallsPaced) (now : Time) :
    (agent.expired now).CallsPaced := by
  refine loop_keeps UserAgent.CallsPaced _ (fun state key _ paced => ?_) (paced.retransmit now)
  obtain ⟨added, step⟩ : ∃ added, CallStep (.ticks now) added state (state.expire now key) :=
    CallStep.expire state now key
  exact step.callsPaced paced

theorem sleeps_of_sendBye
    (sleep : ∀ transaction ∈ agent.transactions.values, transaction.Sleeps now)
    (call : Call) :
    ∀ transaction ∈ (agent.sendBye call now).transactions.values, transaction.Sleeps now := by
  obtain ⟨bye, put, deadline, again⟩ : ∃ bye : Transaction,
      (agent.sendBye call now).transactions = agent.transactions.put bye ∧
        bye.deadline = now + kTransactionTimeout ∧ bye.retransmitAt = now + kT1 :=
    ⟨_, rfl, rfl, rfl⟩
  rw [put]
  intro transaction member
  rcases mem_values_put.mp member with rfl | ⟨-, old⟩
  · refine ⟨?_, fun _ => ?_⟩
    · rw [deadline]
      exact Int.lt_add_of_pos_right now (by decide)
    · rw [again]
      exact Int.lt_add_of_pos_right now (by decide)
  · exact sleep transaction old

/-- What the wait for the ACK leaves sleeps too. -/
theorem sleeps_of_awaitAck
    (sleep : ∀ transaction ∈ agent.transactions.values, transaction.Sleeps now)
    (paced : agent.CallsPaced) :
    (∀ transaction ∈ (agent.awaitAck now).transactions.values, transaction.Sleeps now) ∧
      ∀ call, (agent.awaitAck now).current = some call → call.state = .answering →
        now < call.resendAt ∧ now < call.ackDeadline := by
  unfold awaitAck
  split
  next idle => exact ⟨sleep, fun call present => nomatch idle.symm.trans present⟩
  next call present =>
    split
    next other =>
      refine ⟨sleep, fun found here answering => ?_⟩
      cases present.symm.trans here
      exact absurd answering other
    next answering =>
      split
      next lapsed =>
        refine ⟨?_, fun found here => ?_⟩
        · rw [endCall_transactions]
          exact sleeps_of_sendBye sleep call
        · obtain ⟨_, _, -, -, sent⟩ := (Does.refl agent).sendBye call now
          exact nomatch (sent.endCall .timeout 408).current.symm.trans here
      next early =>
        split
        next resent =>
          have positive := paced.answer call present (not_not.mp answering)
          refine ⟨?_, fun found here _ => ?_⟩
          · dsimp only
            split <;> exact sleep
          · cases here
            refine ⟨Int.lt_add_of_pos_right now ?_, Int.not_le.mp early⟩
            exact Int.lt_min.mpr ⟨Int.mul_pos positive (by decide), by decide⟩
        next later =>
          refine ⟨sleep, fun found here _ => ?_⟩
          cases present.symm.trans here
          exact ⟨Int.not_le.mp later, Int.not_le.mp early⟩

theorem refresh_attempt_iff (agent : UserAgent Host) (now : Time) :
    ((agent.refresh now).registration.wanted = true →
        Later now (agent.refresh now).registration.nextAttempt) ↔
      ¬ agent.registration.HeldBack now := by
  unfold UserAgent.refresh Registration.HeldBack
  split
  next unset => simp [unset]
  next attempt set =>
    split
    next due =>
      simp only [Bool.and_eq_true, Bool.not_eq_true'] at due
      simp [sendRegister_eq, due.2]
    next held =>
      simp only [Bool.and_eq_true, Bool.not_eq_true', decide_eq_true_eq, not_and,
        Bool.not_eq_false] at held
      simp only [set, later_some, Option.some.injEq, exists_eq_left', not_and, Int.not_le]
      exact ⟨fun early wanted _ => early wanted, fun early wanted => Int.not_le.mp fun due =>
        absurd due (Int.not_le.mpr (early wanted (held ⟨wanted, due⟩)))⟩

theorem sleeps_of_refresh
    (sleep : ∀ transaction ∈ agent.transactions.values, transaction.Sleeps now) :
    ∀ transaction ∈ (agent.refresh now).transactions.values, transaction.Sleeps now := by
  unfold UserAgent.refresh
  split
  · exact sleep
  · split
    · rw [sendRegister_eq]
      intro transaction member
      rcases mem_values_put.mp member with rfl | ⟨-, old⟩
      · exact ⟨Int.lt_add_of_pos_right now (by decide), fun _ =>
          Int.lt_add_of_pos_right now (by decide)⟩
      · exact sleep transaction old
    · exact sleep

theorem heldBack_expired_iff (agent : UserAgent Host) :
    (agent.expired now).registration.HeldBack now ↔ agent.Spins now := by
  have lapses := Lapses.expired now agent
  by_cases lapsed : ∃ transaction ∈ agent.transactions.values,
      transaction.onFinal.isRegister = true ∧ transaction.deadline ≤ now
  · refine iff_of_false (fun held => ?_) fun spins => ?_
    · exact nomatch (lapses.landed lapsed).symm.trans held.2.1
    · obtain ⟨transaction, pending, register, deadline⟩ := lapsed
      exact absurd deadline (Int.not_le.mpr (spins.2 transaction pending
        (Transaction.method_of_isRegister register)))
  · rw [lapses.kept lapsed]
    refine ⟨fun held => ⟨held, fun transaction pending register => ?_⟩, And.left⟩
    refine Int.not_le.mp fun deadline => lapsed ⟨transaction, pending, ?_, deadline⟩
    exact Transaction.isRegister_of_method register

theorem asleep_onTimer_iff (registers : Paced true agent.transactions) (calls : agent.CallsPaced) :
    (agent.onTimer now).Asleep now ↔ ¬ agent.Spins now := by
  obtain ⟨sleep, answering⟩ :=
    sleeps_of_awaitAck (fun _ => sleeps_of_expired registers calls.requests) (calls.expired now)
  have refreshed := sleeps_of_refresh sleep
  have attempt := refresh_attempt_iff ((agent.expired now).awaitAck now) now
  rw [(LeavesRegistration.awaitAck (agent.expired now) now).registration,
    heldBack_expired_iff] at attempt
  rw [← attempt, onTimer_eq]
  refine ⟨fun asleep => asleep.attempt, fun early => ⟨refreshed, ?_, early⟩⟩
  rw [((RegisterSide.refl _).refresh now).frame.current]
  exact answering

/-! ### Every run -/

omit [UserAgentHost Host] in
theorem UserAgent.CallsPaced.create (config : UserAgentConfig) (host : Host) (random : Random) :
    (UserAgent.create config host random).CallsPaced where
  requests := fun _ pending => absurd pending not_mem_nil
  answer := fun _ present => nomatch present

/-- In every state of a run and at every time, the next deadline after `on_timer` is none or lies
ahead, unless the attempt to register is held back by REGISTERs that are not over. -/
theorem timer_sleeps_iff (config : UserAgentConfig) (host : Host) (random : Random)
    (ops : List Op) (now : Time) :
    (∀ deadline, ((run UserAgent.step (UserAgent.create config host random) ops).step
        (.timer now)).nextDeadline = some deadline → now < deadline) ↔
      ¬ (run UserAgent.step (UserAgent.create config host random) ops).Spins now := by
  have registers : Paced true
      (run UserAgent.step (UserAgent.create config host random) ops).transactions :=
    Moves.keep (fun move => Move.paced move) (Moves.run _ ops)
      fun _ pending => absurd pending not_mem_nil
  have calls := holds_run UserAgent.CallsPaced (fun _ now paced => paced.retransmit now)
    (fun step paced => step.callsPaced paced) (.create config host random) ops
  exact (later_nextDeadline_iff now _).trans (asleep_onTimer_iff registers calls)

end Timer

/-- The registrar's acceptance of the first REGISTER of `UserAgent.ideal`, for ten seconds. -/
def shortAccepted : Bytes := registerAnswered "200 OK" "z9hG4bK2" "1" "Expires: 10\r\n"

/-- The challenge to the unregister that `UserAgent.ideal` sends next. -/
def unregisterChallenged : Bytes :=
  registerAnswered "401 Unauthorized" "z9hG4bK3" "2"
    "WWW-Authenticate: Digest realm=\"ketphone\", nonce=\"n\"\r\n"

/-- An unregister that was overtaken by the next start is challenged and sent again. Until it is
answered, the refresh that is due after five seconds leaves the deadline in the past. -/
theorem overtaken_timer_spins :
    ¬ ∀ deadline, ((((((UserAgent.ideal.step (.startRegistration 0)).step
        (.stopRegistration 1)).step (.startRegistration 2)).step (.message shortAccepted 3)).step
          (.message unregisterChallenged 4)).step (.timer (seconds 6))).nextDeadline =
        some deadline → seconds 6 < deadline := by
  intro ahead
  have due : ((((((UserAgent.ideal.step (.startRegistration 0)).step
      (.stopRegistration 1)).step (.startRegistration 2)).step (.message shortAccepted 3)).step
        (.message unregisterChallenged 4)).step (.timer (seconds 6))).nextDeadline =
      some (3 + seconds 5) := by
    decide +kernel
  exact absurd (ahead _ due) (by decide)

end KetPhone.Core
