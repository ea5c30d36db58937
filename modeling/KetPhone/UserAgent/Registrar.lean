/-
This file puts the agent together with its registrar and asks whether a registered
agent is bound there. The registrar handles REGISTERs in the order of their CSeq
numbers; its answers may be lost, late or out of order. The agent believes the last
success it sees, so the acceptance of an older REGISTER can hide that a newer
unregister was accepted, and an unregister that is challenged goes out again even
when the agent is registered anew. In a run without these two steps the belief is
true.
-/

import KetPhone.UserAgent.Moves

namespace KetPhone.Core

open Sip List OrderedMap UserAgent

variable {Host : Type}

/-! ### The registrar -/

/-- What the registrar knows of the one account: the CSeq number it handled last, whether the
contact is bound, and the REGISTERs it accepted. -/
structure Registrar where
  handled : Option UInt32 := none
  bound : Bool := false
  accepted : List Packet := []

instance (packet : Packet) : Decidable packet.Unregisters :=
  inferInstanceAs (Decidable (packet.expires = some (ascii "0")))

/-- The registrar handles a REGISTER. It refuses or challenges it, or it accepts it and then keeps
or removes the binding. -/
def Registrar.handle (registrar : Registrar) (request : Request) (branch : Bytes)
    (accepts : Bool) : Registrar :=
  if accepts then
    { handled := some request.cseq
      bound :=
        if (Packet.request request branch).Registers then true
        else if (Packet.request request branch).Unregisters then false
        else registrar.bound
      accepted := .request request branch :: registrar.accepted }
  else { registrar with handled := some request.cseq }

structure Exchange (Host : Type) where
  agent : UserAgent Host
  registrar : Registrar

inductive Turn where
  | agent (op : Op)
  | registrar (request : Request) (branch : Bytes) (accepts : Bool)

/-- What the registrar and the network may do: REGISTERs of the agent are handled in the order of
their CSeq numbers, and a success that reaches a pending REGISTER answers one that was accepted,
whose branch and CSeq it carries. -/
def Genuine (exchange : Exchange Host) : Turn → Prop
  | .registrar request branch _ => .sendSip (.request request branch) ∈ exchange.agent.log ∧
      request.method = ascii "REGISTER" ∧
      ∀ last, exchange.registrar.handled = some last → last < request.cseq
  | .agent (.message datagram _) => ∀ response transaction,
      exchange.agent.Answers datagram response transaction →
      transaction.onFinal.isRegister = true → UserAgent.isSuccess response.status = true →
        ∃ request, .request request (branchOf response) ∈ exchange.registrar.accepted ∧
          parseCseq (response.headerOr "cseq") = some ⟨request.cseq, ascii "REGISTER"⟩
  | .agent _ => True

/-- Every unregister that the agent has sent is older than a REGISTER. -/
def UserAgent.UnregistersBefore (agent : UserAgent Host) (cseq : UInt32) : Prop :=
  ∀ request branch, .sendSip (.request request branch) ∈ agent.log →
    (Packet.request request branch).Unregisters → request.cseq < cseq

/-- No acceptance of a REGISTER older than an unregister reaches the agent while it wants to be
registered, and no unregister is challenged while it is registered. -/
def InOrder (exchange : Exchange Host) : Turn → Prop
  | .agent (.message datagram _) => ∀ response transaction expires authenticated,
      exchange.agent.Answers datagram response transaction →
      transaction.onFinal = .register expires authenticated →
        (expires ≠ 0 → UserAgent.isSuccess response.status = true →
          exchange.agent.registration.wanted = true →
            exchange.agent.UnregistersBefore transaction.request.cseq) ∧
        (expires = 0 → exchange.agent.registration.registered = true →
          (exchange.agent.answerChallenge (some response) authenticated).1 = none)
  | _ => True

/-- With no REGISTER pending, an agent that says it is registered is bound at the registrar. -/
def Exchange.Truthful (exchange : Exchange Host) : Prop :=
  (∀ transaction ∈ exchange.agent.transactions.values,
    transaction.method ≠ ascii "REGISTER") →
      exchange.agent.registration.registered = true → exchange.registrar.bound = true

def Exchange.step [UserAgentHost Host] (exchange : Exchange Host) : Turn → Exchange Host
  | .agent op => { exchange with agent := exchange.agent.step op }
  | .registrar request branch accepts =>
    { exchange with registrar := exchange.registrar.handle request branch accepts }

/-! ### What the registrar's acceptances say -/

/-- The acceptances were sent by the agent and are in order, and the last one decides. -/
structure Registrar.Sound (registrar : Registrar) (log : List Action) : Prop where
  sent : ∀ packet ∈ registrar.accepted, .sendSip packet ∈ log
  method : ∀ packet ∈ registrar.accepted, packet.method = some (ascii "REGISTER")
  handled : ∀ request branch, .request request branch ∈ registrar.accepted →
    ∃ last, registrar.handled = some last ∧ request.cseq ≤ last
  bound : ∀ request branch, .request request branch ∈ registrar.accepted →
    (Packet.request request branch).Registers → registrar.bound = true ∨
      ∃ other place, .request other place ∈ registrar.accepted ∧
        (Packet.request other place).Unregisters ∧ request.cseq < other.cseq

namespace Registrar.Sound

variable {registrar : Registrar} {log : List Action}

theorem mono (sound : registrar.Sound log) {longer : List Action}
    (grown : ∀ action ∈ log, action ∈ longer) : registrar.Sound longer :=
  { sound with sent := fun packet accepted => grown _ (sound.sent packet accepted) }

theorem handle (sound : registrar.Sound log) {request : Request} {branch : Bytes}
    (sent : .sendSip (.request request branch) ∈ log)
    (register : request.method = ascii "REGISTER")
    (later : ∀ last, registrar.handled = some last → last < request.cseq) (accepts : Bool) :
    (registrar.handle request branch accepts).Sound log := by
  have newest : ∀ other place, .request other place ∈ registrar.accepted →
      other.cseq < request.cseq := by
    intro other place accepted
    obtain ⟨last, handled, below⟩ := sound.handled other place accepted
    exact UInt32.lt_of_le_of_lt below (later last handled)
  unfold Registrar.handle
  split
  · refine ⟨fun packet accepted => ?_, fun packet accepted => ?_,
      fun other place accepted => ⟨_, rfl, ?_⟩, fun other place accepted registers => ?_⟩
    · rcases mem_cons.mp accepted with rfl | old
      · exact sent
      · exact sound.sent packet old
    · rcases mem_cons.mp accepted with rfl | old
      · exact congrArg some register
      · exact sound.method packet old
    · rcases mem_cons.mp accepted with new | old
      · cases new
        exact UInt32.le_refl _
      · exact UInt32.le_of_lt (newest other place old)
    · by_cases binds : (Packet.request request branch).Registers
      · exact Or.inl (if_pos binds)
      · have old : .request other place ∈ registrar.accepted :=
          (mem_cons.mp accepted).resolve_left fun same => binds (same ▸ registers)
        by_cases frees : (Packet.request request branch).Unregisters
        · exact Or.inr ⟨request, branch, mem_cons_self, frees, newest other place old⟩
        · dsimp only
          rw [if_neg binds, if_neg frees]
          exact (sound.bound other place old registers).imp_right
            fun ⟨later, place, removed, rest⟩ => ⟨later, place, mem_cons_of_mem _ removed, rest⟩
  · exact ⟨sound.sent, sound.method, fun other place accepted =>
      ⟨_, rfl, UInt32.le_of_lt (newest other place accepted)⟩, sound.bound⟩

theorem bound_of_newest (sound : registrar.Sound log) {request : Request} {branch : Bytes}
    (accepted : .request request branch ∈ registrar.accepted)
    (registers : (Packet.request request branch).Registers)
    (newest : ∀ other place, .sendSip (.request other place) ∈ log →
      (Packet.request other place).Unregisters → other.cseq < request.cseq) :
    registrar.bound = true := by
  refine (sound.bound request branch accepted registers).resolve_right ?_
  rintro ⟨other, place, removed, unregisters, above⟩
  exact UInt32.lt_asymm above (newest other place (sound.sent _ removed) unregisters)

end Registrar.Sound

/-! ### What the agent's belief rests on -/

/-- A REGISTER newer than every unregister of the agent was accepted. -/
def UserAgent.Held (agent : UserAgent Host) (accepted : List Packet) : Prop :=
  ∃ request branch, .request request branch ∈ accepted ∧
    (Packet.request request branch).Registers ∧ agent.UnregistersBefore request.cseq

theorem UserAgent.Held.keep {before after : UserAgent Host} {accepted : List Packet}
    (held : before.Held accepted)
    (log : ∀ packet : Packet, .sendSip packet ∈ after.log → packet.Unregisters →
      .sendSip packet ∈ before.log) : after.Held accepted := by
  obtain ⟨request, branch, member, registers, newest⟩ := held
  exact ⟨request, branch, member, registers, fun other place sent unregisters =>
    newest other place (log _ sent unregisters) unregisters⟩

/-- A registered agent wants to be, and a REGISTER newer than its unregisters was accepted. -/
structure Trusts (accepted : List Packet) (agent : UserAgent Host) : Prop where
  asked : agent.registration.registered = true → agent.registration.wanted = true
  positive : (agent.registration.registered = true ∨
    ∃ transaction ∈ agent.transactions.values, transaction.Registers) →
      agent.config.registerExpires ≠ 0
  held : agent.registration.registered = true → agent.Held accepted

namespace Trusts

variable {accepted : List Packet} {before after : UserAgent Host}

theorem keep (trusts : Trusts accepted before) (config : after.config = before.config)
    (registered : after.registration.registered = true →
      before.registration.registered = true ∧ after.registration.wanted = true)
    (pending : ∀ transaction ∈ after.transactions.values, transaction.Registers →
      ∃ old ∈ before.transactions.values, old.Registers)
    (log : ∀ packet : Packet, .sendSip packet ∈ after.log → packet.Unregisters →
      .sendSip packet ∈ before.log) : Trusts accepted after where
  asked := fun holds => (registered holds).2
  positive := fun holds => by
    rw [config]
    refine trusts.positive (holds.imp (fun holds => (registered holds).1) ?_)
    rintro ⟨transaction, member, registers⟩
    exact pending transaction member registers
  held := fun holds => (trusts.held (registered holds).1).keep log

theorem leaves (trusts : Trusts accepted before) (same : LeavesRegistration before after) :
    Trusts accepted after := by
  refine trusts.keep same.config (fun registered => ?_) (fun transaction member registers =>
    ⟨transaction, mem_values_of_half true same.registers registers.isRegister member, registers⟩)
    fun packet sent unregisters => ?_
  · rw [same.registration] at registered ⊢
    exact ⟨registered, trusts.asked registered⟩
  · exact (same.log.mem sent).resolve_right fun new => new (Packet.method_of_expires unregisters)

theorem set (trusts : Trusts accepted before) (registration : Registration)
    (registered : registration.registered = true →
      before.registration.registered = true ∧ registration.wanted = true) :
    Trusts accepted { before with registration } :=
  trusts.keep rfl registered (fun transaction member registers => ⟨transaction, member, registers⟩)
    fun _ sent _ => sent

theorem emit (trusts : Trusts accepted before) (event : Event) :
    Trusts accepted (before.emit event) := by
  refine trusts.keep rfl (fun registered => ⟨registered, trusts.asked registered⟩)
    (fun transaction member registers => ⟨transaction, member, registers⟩) fun packet sent _ => ?_
  rcases mem_append.mp sent with old | new
  · exact old
  · cases mem_singleton.mp new

theorem drawn (trusts : Trusts accepted before) : Trusts accepted before.drawn :=
  ⟨trusts.asked, trusts.positive, trusts.held⟩

theorem answerChallenge (trusts : Trusts accepted before) (response : Option Message)
    (authenticated : Bool) :
    Trusts accepted (before.landed.answerChallenge response authenticated).2 := by
  have landed : Trusts accepted before.landed :=
    trusts.set _ fun registered => ⟨registered, trusts.asked registered⟩
  rcases before.landed.answerChallenge_snd response authenticated with same | drawn
  · rw [same]
    exact landed
  · rw [drawn]
    exact landed.drawn

theorem concludeRegister (trusts : Trusts accepted before)
    (wanted : before.registration.wanted = true) (response : Option Message) (expires : UInt32)
    (now : Time)
    (backed : UserAgent.isSuccess ((response.map Message.status).getD 408) = true →
      before.config.registerExpires ≠ 0 ∧ before.Held accepted) :
    Trusts accepted (before.concludeRegister response expires now) := by
  unfold UserAgent.concludeRegister
  dsimp only
  refine Trusts.emit ?_ _
  refine ⟨fun _ => wanted, fun holds => ?_, fun success => ?_⟩
  · rcases holds with success | pending
    · exact (backed success).1
    · exact trusts.positive (Or.inr pending)
  · exact (backed success).2.keep fun _ sent _ => sent

variable [UserAgentHost Host]

theorem sendRegister (trusts : Trusts accepted before) {expires : UInt32}
    (zero : expires = 0 → before.registration.registered = false)
    (positive : expires ≠ 0 → before.config.registerExpires ≠ 0) (authorization : Bytes)
    (now : Time) : Trusts accepted (before.sendRegister expires authorization now) := by
  have sends : (before.registerTransaction expires authorization now).packet.expires =
      some (decimal expires.toNat) := Transaction.packet_expires rfl
  rw [sendRegister_eq]
  refine ⟨trusts.asked, fun holds => ?_, fun registered => ?_⟩
  · rcases holds with registered | ⟨transaction, member, registers⟩
    · exact trusts.positive (Or.inl registered)
    · rcases mem_values_put.mp member with rfl | ⟨-, old⟩
      · obtain ⟨_, _, handler, nonzero⟩ := registers
        cases handler
        exact positive nonzero
      · exact trusts.positive (Or.inr ⟨transaction, old, registers⟩)
  · refine (trusts.held registered).keep fun packet sent unregisters => ?_
    rcases mem_append.mp sent with old | new
    · exact old
    · cases mem_singleton.mp new
      have leaves : expires = 0 :=
        UInt32.toNat_inj.mp
          ((decimal_eq_zero_iff _).mp (Option.some.inj (sends.symm.trans unregisters)))
      exact nomatch (zero leaves).symm.trans registered

theorem onRegisterFinal (trusts : Trusts accepted before) (response : Option Message)
    {expires : UInt32} (authenticated : Bool) (now : Time)
    (positive : expires ≠ 0 → before.config.registerExpires ≠ 0)
    (success : expires ≠ 0 → before.registration.wanted = true →
      UserAgent.isSuccess ((response.map Message.status).getD 408) = true → before.Held accepted)
    (unchallenged : expires = 0 → before.registration.registered = true →
      (before.answerChallenge response authenticated).1 = none) :
    Trusts accepted (before.onRegisterFinal response expires authenticated now) := by
  have challenged := trusts.answerChallenge response authenticated
  have frame : (before.landed.answerChallenge response authenticated).2.config = before.config ∧
      (before.landed.answerChallenge response authenticated).2.registration.registered =
        before.registration.registered ∧
      (before.landed.answerChallenge response authenticated).2.registration.wanted =
        before.registration.wanted ∧
      (before.landed.answerChallenge response authenticated).2.log = before.log := by
    rcases before.landed.answerChallenge_snd response authenticated with same | drawn
    · rw [same]
      exact ⟨rfl, rfl, rfl, rfl⟩
    · rw [drawn]
      exact ⟨rfl, rfl, rfl, rfl⟩
  obtain ⟨config, registered, wanted, log⟩ := frame
  cases answered : (before.answerChallenge response authenticated).1 with
  | some line =>
    rw [before.onRegisterFinal_challenged answered]
    refine challenged.sendRegister (fun zero => ?_) (config ▸ positive) line now
    rw [registered, ← Bool.not_eq_true]
    intro holds
    cases (unchallenged zero holds).symm.trans answered
  | none =>
    unfold UserAgent.onRegisterFinal
    simp only [UserAgent.answerChallenge_landed, answered]
    split
    · exact challenged
    next nonzero =>
      split
      next unwanted =>
        rw [Bool.not_eq_true'] at unwanted
        split
        · refine challenged.sendRegister (fun _ => ?_)
            (fun absurdity => (absurdity rfl).elim) [] now
          rw [← Bool.not_eq_true]
          intro holds
          cases unwanted.symm.trans (challenged.asked holds)
        · exact challenged
      next stillWanted =>
        rw [Bool.not_eq_true', Bool.not_eq_false] at stillWanted
        refine challenged.concludeRegister stillWanted response expires now fun succeeded => ?_
        rw [config]
        refine ⟨positive nonzero, (success nonzero (wanted ▸ stillWanted) succeeded).keep ?_⟩
        rw [log]
        exact fun _ sent _ => sent

/-! ### Operations -/

variable {agent : UserAgent Host}

theorem runFinal (trusts : Trusts accepted agent) (handler : FinalHandler) (now : Time) :
    Trusts accepted (agent.runFinal handler none now) := by
  have landed : Trusts accepted agent.landed := trusts.answerChallenge none true
  match handler with
  | .register expires authenticated =>
    show Trusts accepted (agent.onRegisterFinal none expires authenticated now)
    rw [onRegisterFinal_none]
    split
    · exact landed
    next holds =>
      rw [not_or, Bool.not_eq_false] at holds
      exact landed.concludeRegister holds.2 none expires now fun success => nomatch success
  | .invite context => exact trusts.leaves (LeavesRegistration.onInviteFinal agent context now)
  | .ignore => exact trusts

omit [UserAgentHost Host] in
theorem erase (trusts : Trusts accepted agent) (key : Bytes) :
    Trusts accepted { agent with transactions := agent.transactions.erase key } :=
  trusts.keep rfl (fun registered => ⟨registered, trusts.asked registered⟩)
    (fun transaction member registers =>
      ⟨transaction, mem_of_mem_filter member, registers⟩) fun _ sent _ => sent

theorem expire (trusts : Trusts accepted agent) (now : Time) (key : Bytes) :
    Trusts accepted (agent.expire now key) := by
  unfold UserAgent.expire
  split
  · exact trusts
  · exact (trusts.erase key).runFinal _ now

theorem retransmit (trusts : Trusts accepted agent) (booked : Booked agent) (now : Time) :
    Trusts accepted (agent.retransmit now) := by
  obtain ⟨host, equal⟩ := agent.retransmit_eq now
  rw [equal]
  refine trusts.keep rfl (fun registered => ⟨registered, trusts.asked registered⟩)
    (fun transaction member registers => ?_) fun packet sent unregisters => ?_
  · obtain ⟨old, earlier, rfl⟩ := mem_map.mp member
    refine ⟨old, earlier, ?_⟩
    rwa [Transaction.Registers, Transaction.backOff_onFinal] at registers
  · rcases mem_append.mp sent with old | again
    · exact old
    · obtain ⟨transaction, due, packet⟩ := mem_map.mp again
      cases packet
      exact booked.sent transaction (mem_filter.mp due).1 (Transaction.isRegister_of_method
        (Option.some.inj (Packet.method_of_expires unregisters)))

theorem register (trusts : Trusts accepted agent) (registration : Registration)
    (registered : registration.registered = true →
      agent.registration.registered = true ∧ registration.wanted = true) (now : Time) :
    Trusts accepted
      ({ agent with registration }.sendRegister agent.config.registerExpires [] now) := by
  refine (trusts.set registration registered).sendRegister (fun zero => ?_) id [] now
  rw [← Bool.not_eq_true]
  intro holds
  exact trusts.positive (Or.inl (registered holds).1) zero

theorem refresh (trusts : Trusts accepted agent) (now : Time) :
    Trusts accepted (agent.refresh now) := by
  unfold UserAgent.refresh
  split
  · exact trusts
  · split
    · refine trusts.register _ ?_ now
      exact fun registered => ⟨registered, trusts.asked registered⟩
    · exact trusts

theorem onTimer (trusts : Trusts accepted agent) (booked : Booked agent) (now : Time) :
    Trusts accepted (agent.onTimer now) := by
  have expired := loop_keeps (Trusts accepted) (agent.expiredKeys now)
    (fun _ key _ kept => kept.expire now key) (trusts.retransmit booked now)
  exact (expired.leaves (LeavesRegistration.awaitAck _ now)).refresh now

theorem onTransportDown (trusts : Trusts accepted agent) (now : Time) :
    Trusts accepted (agent.onTransportDown now) := by
  have cleared : Trusts accepted { agent with transactions := OrderedMap.empty } :=
    trusts.keep rfl (fun registered => ⟨registered, trusts.asked registered⟩)
      (fun _ member => absurd member List.not_mem_nil) fun _ sent _ => sent
  have failed := loop_keeps (Trusts accepted) agent.transactions.values
    (fun _ transaction _ kept => kept.runFinal transaction.onFinal now) cleared
  unfold UserAgent.onTransportDown
  dsimp only
  split
  · refine (failed.set _ ?_).emit _
    exact fun registered => nomatch registered
  · exact failed

theorem onTransportUp (trusts : Trusts accepted agent) (now : Time) :
    Trusts accepted (agent.onTransportUp now) := by
  unfold UserAgent.onTransportUp
  split
  · exact trusts
  · refine trusts.register _ ?_ now
    exact fun registered => ⟨registered, trusts.asked registered⟩

theorem startRegistration (trusts : Trusts accepted agent) (now : Time) :
    Trusts accepted (agent.startRegistration now) := by
  unfold UserAgent.startRegistration
  split
  · exact trusts
  · dsimp only
    split
    · refine trusts.set _ ?_
      exact fun registered => ⟨registered, rfl⟩
    · refine trusts.register _ ?_ now
      exact fun registered => ⟨registered, rfl⟩

theorem stopRegistration (trusts : Trusts accepted agent) (now : Time) :
    Trusts accepted (agent.stopRegistration now) := by
  unfold UserAgent.stopRegistration
  dsimp only
  split
  · refine (trusts.set _ ?_).sendRegister (fun _ => rfl) (fun absurdity => (absurdity rfl).elim) []
      now
    exact fun registered => nomatch registered
  next idle =>
    rw [Bool.or_eq_true, not_or, Bool.not_eq_true] at idle
    refine trusts.set _ ?_
    exact fun registered => nomatch registered.symm.trans idle.1

theorem shutdown (trusts : Trusts accepted agent) (now : Time) :
    Trusts accepted (agent.shutdown now) := by
  have closing : Trusts accepted { agent with shuttingDown := true } :=
    ⟨trusts.asked, trusts.positive, trusts.held⟩
  unfold UserAgent.shutdown
  dsimp only
  split
  · exact closing.stopRegistration now
  · exact (closing.leaves (LeavesRegistration.hangup _ _ now)).stopRegistration now

omit [UserAgentHost Host] in
/-- A success that answers a pending REGISTER comes from the acceptance of that REGISTER. -/
theorem packet_mem_accepted {exchange : Exchange Host} {datagram : Bytes} {now : Time}
    (genuine : Genuine exchange (.agent (.message datagram now)))
    (sound : exchange.registrar.Sound exchange.agent.log) (booked : Booked exchange.agent)
    (distinct : exchange.agent.random.Distinct exchange.agent.draws) {response : Message}
    {transaction : Transaction} (answers : exchange.agent.Answers datagram response transaction)
    (register : transaction.onFinal.isRegister = true)
    (success : isSuccess response.status = true) :
    transaction.packet ∈ exchange.registrar.accepted := by
  obtain ⟨request, accepted, cseq⟩ := genuine response transaction answers register success
  have method := Transaction.method_of_isRegister register
  obtain ⟨-, -, key, read, found⟩ := answers
  obtain ⟨pending, keyed⟩ := find_eq_some_iff.mp found
  have branch : transaction.branch = branchOf response := by
    unfold responseKey at read
    rw [cseq, Option.map_some, Option.some.injEq, ← keyed] at read
    unfold Transaction.key at read
    rw [method] at read
    exact (append_cancel_right (append_cancel_right read)).symm
  have sent := booked.sent transaction pending register
  unfold Transaction.packet at sent ⊢
  rw [branch] at sent ⊢
  have same := booked.branched.unique distinct _ _ _ sent method (sound.sent _ accepted)
    (Option.some.inj (sound.method _ accepted))
  rw [same]
  exact accepted

theorem onMessage {exchange : Exchange Host}
    (trusts : Trusts exchange.registrar.accepted exchange.agent)
    (sound : exchange.registrar.Sound exchange.agent.log) (booked : Booked exchange.agent)
    (distinct : exchange.agent.random.Distinct exchange.agent.draws) {datagram : Bytes} {now : Time}
    (genuine : Genuine exchange (.agent (.message datagram now)))
    (inOrder : InOrder exchange (.agent (.message datagram now))) :
    Trusts exchange.registrar.accepted (exchange.agent.onMessage datagram now) := by
  rcases exchange.agent.onMessage_cases datagram now with same |
    ⟨_, transaction, answers, _, _, equal⟩ |
    ⟨response, transaction, expires, authenticated, answers, handler, _, equal⟩
  · exact trusts.leaves same
  · obtain ⟨-, -, key, -, found⟩ := answers
    rw [equal]
    refine trusts.keep rfl (fun registered => ⟨registered, trusts.asked registered⟩)
      (fun other member registers => ?_) fun _ sent _ => sent
    rcases mem_values_put.mp member with rfl | ⟨-, old⟩
    · refine ⟨transaction, (find_eq_some_iff.mp found).1, ?_⟩
      rwa [Transaction.Registers, Transaction.proceed_onFinal] at registers
    · exact ⟨other, old, registers⟩
  · have register : transaction.onFinal.isRegister = true := by
      rw [handler]
      rfl
    obtain ⟨-, -, key, -, found⟩ := id answers
    have pending := (find_eq_some_iff.mp found).1
    obtain ⟨newest, unchallenged⟩ :=
      inOrder response transaction expires authenticated answers handler
    have registers (nonzero : expires ≠ 0) : transaction.Registers :=
      ⟨expires, authenticated, handler, nonzero⟩
    rw [equal]
    refine (trusts.erase transaction.key).onRegisterFinal (some response) authenticated now
      (fun nonzero => trusts.positive (Or.inr ⟨transaction, pending, registers nonzero⟩))
      (fun nonzero wanted success => ⟨transaction.request, transaction.branch,
        packet_mem_accepted genuine sound booked distinct answers register success,
        Transaction.registers_packet_iff.mpr (registers nonzero), newest nonzero success wanted⟩)
      fun zero registered => ?_
    exact (exchange.agent.answerChallenge_without transaction (some response)
      authenticated).trans (unchallenged zero registered)

end Trusts

/-! ### Runs -/

section Runs

variable [UserAgentHost Host] {exchange : Exchange Host}

/-- What every state of an orderly run satisfies. -/
structure Agrees (exchange : Exchange Host) : Prop where
  booked : Booked exchange.agent
  sound : exchange.registrar.Sound exchange.agent.log
  trusts : Trusts exchange.registrar.accepted exchange.agent

theorem Agrees.op (agrees : Agrees exchange) {op : Op}
    (distinct : exchange.agent.random.Distinct exchange.agent.draws)
    (genuine : Genuine exchange (.agent op)) (inOrder : InOrder exchange (.agent op)) :
    Trusts exchange.registrar.accepted (exchange.agent.step op) := by
  have trusts := agrees.trusts
  cases op with
  | startRegistration now => exact trusts.startRegistration now
  | stopRegistration now => exact trusts.stopRegistration now
  | call id target now => exact trusts.leaves (LeavesRegistration.call _ id target now)
  | answer id now => exact trusts.leaves (LeavesRegistration.answer _ id now)
  | reject id status => exact trusts.leaves (LeavesRegistration.reject _ id status)
  | hangup id now => exact trusts.leaves (LeavesRegistration.hangup _ id now)
  | shutdown now => exact trusts.shutdown now
  | transportDown now => exact trusts.onTransportDown now
  | transportUp now => exact trusts.onTransportUp now
  | message datagram now =>
    exact trusts.onMessage agrees.sound agrees.booked distinct genuine inOrder
  | timer now => exact trusts.onTimer agrees.booked now
  | takeEvents => exact ⟨trusts.asked, trusts.positive, trusts.held⟩

theorem Agrees.step (agrees : Agrees exchange) {turn : Turn}
    (distinct : exchange.agent.random.Distinct exchange.agent.draws)
    (genuine : Genuine exchange turn) (inOrder : InOrder exchange turn) :
    Agrees (exchange.step turn) := by
  cases turn with
  | agent op =>
    have moves := Moves.step exchange.agent op
    exact ⟨moves.keep Booked.move agrees.booked,
      agrees.sound.mono fun _ member => moves.grew.mem_of_mem member,
      agrees.op distinct genuine inOrder⟩
  | registrar request branch accepts =>
    obtain ⟨sent, register, later⟩ := genuine
    refine ⟨agrees.booked, agrees.sound.handle sent register later accepts, ?_⟩
    refine ⟨agrees.trusts.asked, agrees.trusts.positive, fun registered => ?_⟩
    obtain ⟨holder, place, accepted, rest⟩ := agrees.trusts.held registered
    refine ⟨holder, place, ?_, rest⟩
    unfold Exchange.step Registrar.handle
    dsimp only
    split
    · exact mem_cons_of_mem _ accepted
    · exact accepted

omit [UserAgentHost Host] in
theorem Agrees.truthful (agrees : Agrees exchange) : exchange.Truthful := by
  intro _ registered
  obtain ⟨request, branch, accepted, registers, newest⟩ := agrees.trusts.held registered
  exact agrees.sound.bound_of_newest accepted registers newest

theorem Exchange.moves_run (exchange : Exchange Host) (turns : List Turn) :
    Moves exchange.agent (run Exchange.step exchange turns).agent :=
  run_relates (fun before after : Exchange Host => Moves before.agent after.agent)
    (fun _ => .refl) (fun first second => first.trans second)
    (fun state turn => match turn with
      | .agent op => Moves.step state.agent op
      | .registrar _ _ _ => .refl) exchange turns

theorem Agrees.run (agrees : Agrees exchange) {turns : List Turn}
    (distinct : exchange.agent.random.Distinct (run Exchange.step exchange turns).agent.draws)
    (genuine : StepsMeet Exchange.step Genuine exchange turns)
    (inOrder : StepsMeet Exchange.step InOrder exchange turns) :
    Agrees (run Exchange.step exchange turns) := by
  induction turns generalizing exchange with
  | nil => exact agrees
  | cons turn turns hypothesis =>
    have whole := (exchange.moves_run (turn :: turns)).continues
    have first := (exchange.moves_run [turn]).continues
    refine hypothesis
      (agrees.step (distinct.mono whole.draws) genuine.1 inOrder.1) ?_ genuine.2 inOrder.2
    rw [show (exchange.step turn).agent.random = exchange.agent.random from first.random]
    exact distinct

omit [UserAgentHost Host] in
theorem Agrees.create (config : UserAgentConfig) (host : Host) (random : Random) :
    Agrees ⟨UserAgent.create config host random, {}⟩ where
  booked := Booked.create config host random
  sound := ⟨fun _ accepted => absurd accepted not_mem_nil,
    fun _ accepted => absurd accepted not_mem_nil,
    fun _ _ accepted => absurd accepted not_mem_nil,
    fun _ _ accepted => absurd accepted not_mem_nil⟩
  trusts := by
    refine ⟨fun (registered : false = true) => (nomatch registered), fun holds => ?_,
      fun (registered : false = true) => (nomatch registered)⟩
    rcases holds with registered | ⟨_, pending, _⟩
    · exact nomatch (show false = true from registered)
    · exact absurd pending not_mem_nil

/-- In a run in which the registrar and the network keep their rules, no older acceptance hides an
unregister and no unregister is challenged while the agent is registered, the agent's belief is
true. -/
theorem registered_bound (config : UserAgentConfig) (host : Host) (random : Random)
    (turns : List Turn)
    (distinct : random.Distinct
      (run Exchange.step ⟨UserAgent.create config host random, {}⟩ turns).agent.draws)
    (genuine : StepsMeet Exchange.step Genuine ⟨UserAgent.create config host random, {}⟩ turns)
    (inOrder : StepsMeet Exchange.step InOrder ⟨UserAgent.create config host random, {}⟩ turns) :
    (run Exchange.step ⟨UserAgent.create config host random, {}⟩ turns).Truthful :=
  ((Agrees.create config host random).run distinct genuine inOrder).truthful

end Runs

/-! ### A start between a stop and its answer -/

/-- The acceptance of a REGISTER of `UserAgent.ideal`. -/
def registerAccepted (branch cseq : String) : Bytes :=
  registerAnswered "200 OK" branch cseq ""

/-- Its first REGISTER, with which it registers, and the second, with which it unregisters. -/
def registering : Request := UserAgent.ideal.registerRequest 300 []

def unregistering : Request := (UserAgent.ideal.step (.startRegistration 0)).registerRequest 0 []

theorem genuine_of_accepted {exchange : Exchange Host} {datagram : Bytes} {now : Time}
    (response : Message) (request : Request) (parsed : parseMessage datagram = some response)
    (accepted : .request request (branchOf response) ∈ exchange.registrar.accepted)
    (cseq : parseCseq (response.headerOr "cseq") = some ⟨request.cseq, ascii "REGISTER"⟩) :
    Genuine exchange (.agent (.message datagram now)) := by
  intro other transaction answers _ _
  cases parsed.symm.trans answers.1
  exact ⟨request, accepted, cseq⟩

/-- The agent registers and the registrar accepts. -/
def accepting : Exchange IdealHost :=
  run Exchange.step ⟨UserAgent.ideal, {}⟩
    [.agent (.startRegistration 0), .registrar registering (ascii "z9hG4bK2") true]

/-- An accepted REGISTER binds the agent that sent it. -/
theorem accepted_bound :
    (run Exchange.step ⟨UserAgent.ideal, {}⟩
      [.agent (.startRegistration 0), .registrar registering (ascii "z9hG4bK2") true,
        .agent (.message (registerAccepted "z9hG4bK2" "1") 1)]).Truthful := by
  have sent : .sendSip (.request registering (ascii "z9hG4bK2")) ∈
      (UserAgent.ideal.step (.startRegistration 0)).log := by decide +kernel
  have only : ∀ action ∈ accepting.agent.log,
      action = .sendSip (.request registering (ascii "z9hG4bK2")) := by decide +kernel
  refine registered_bound _ _ _ [.agent (.startRegistration 0),
    .registrar registering (ascii "z9hG4bK2") true,
    .agent (.message (registerAccepted "z9hG4bK2" "1") 1)] (Random.counting_distinct _)
    ⟨trivial, ⟨sent, rfl, nofun⟩, ?_, trivial⟩ ⟨trivial, trivial, ?_, trivial⟩
  · exact genuine_of_accepted ((parseMessage (registerAccepted "z9hG4bK2" "1")).getD {}) registering
      (by decide +kernel) (by decide +kernel) (by decide +kernel)
  · intro response transaction expires authenticated _ _
    refine ⟨fun _ _ _ request branch member unregisters => ?_, fun _ registered => ?_⟩
    · cases only _ member
      exact absurd unregisters (by decide +kernel)
    · exact nomatch (show false = true from registered)

/-- The agent registers, unregisters and wants to register again before either is answered; the
registrar accepts both REGISTERs, and both acceptances arrive. -/
def overtaken : List Turn :=
  [.agent (.startRegistration 0), .agent (.stopRegistration 1), .agent (.startRegistration 2),
    .registrar registering (ascii "z9hG4bK2") true,
    .registrar unregistering (ascii "z9hG4bK3") true,
    .agent (.message (registerAccepted "z9hG4bK2" "1") 3),
    .agent (.message (registerAccepted "z9hG4bK3" "2") 4)]

/-- It believes that it is registered, and the registrar has removed the binding. -/
theorem overtaken_not_truthful :
    StepsMeet Exchange.step Genuine ⟨UserAgent.ideal, {}⟩ overtaken ∧
      ¬ (run Exchange.step ⟨UserAgent.ideal, {}⟩ overtaken).Truthful := by
  refine ⟨⟨trivial, trivial, trivial, ⟨by decide +kernel, rfl, nofun⟩,
    ⟨by decide +kernel, rfl, ?_⟩, ?_, ?_, trivial⟩, fun truthful => ?_⟩
  · rintro last ⟨⟩
    decide +kernel
  · exact genuine_of_accepted ((parseMessage (registerAccepted "z9hG4bK2" "1")).getD {}) registering
      (by decide +kernel) (by decide +kernel) (by decide +kernel)
  · exact genuine_of_accepted ((parseMessage (registerAccepted "z9hG4bK3" "2")).getD {})
      unregistering (by decide +kernel) (by decide +kernel) (by decide +kernel)
  · have unbound : (run Exchange.step ⟨UserAgent.ideal, {}⟩ overtaken).registrar.bound = false := by
      decide +kernel
    refine nomatch unbound.symm.trans (truthful ?_ ?_)
    · decide +kernel
    · decide +kernel

end KetPhone.Core
