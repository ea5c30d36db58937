/-
This file says what each operation of the user agent does to its registration.
Everything that belongs to calls leaves it alone. What remains is the end of a
REGISTER transaction, by a response, a timeout or a lost connection, and the five
places that send a REGISTER. The properties of the registration over whole runs
are proved from these facts.
-/

import KetPhone.UserAgent.Frame

namespace KetPhone.Core

open Sip List OrderedMap

/-! ### REGISTERs on the wire -/

/-- The Expires value of a REGISTER. -/
def Packet.expires : Packet → Option Bytes
  | .request content _ =>
    if content.method = ascii "REGISTER" then Headers.value content.extra (ascii "Expires")
    else none
  | _ => none

/-- A REGISTER with a non-zero Expires value. -/
def Packet.Registers (packet : Packet) : Prop :=
  ∃ value, packet.expires = some value ∧ value ≠ ascii "0"

instance (packet : Packet) : Decidable packet.Registers :=
  match expires : packet.expires with
  | none => isFalse fun ⟨_, found, _⟩ => nomatch expires.symm.trans found
  | some value =>
    if zero : value = ascii "0" then
      isFalse fun ⟨_, found, nonzero⟩ =>
        nonzero ((Option.some.inj (expires.symm.trans found)).symm.trans zero)
    else isTrue ⟨value, expires, zero⟩

/-- A REGISTER with Expires 0. -/
def Packet.Unregisters (packet : Packet) : Prop := packet.expires = some (ascii "0")

theorem Packet.method_of_expires {packet : Packet} {value : Bytes}
    (expires : packet.expires = some value) : packet.method = some (ascii "REGISTER") := by
  match packet with
  | .request content _ =>
    simp only [Packet.expires] at expires
    split at expires
    next register => exact congrArg some register
    next => cases expires
  | .response _ => cases expires
  | .ackForFailure _ _ => cases expires

namespace Transaction

variable {transaction : Transaction} {expires : UInt32} {authenticated : Bool}

theorem packet_expires (handler : transaction.onFinal = .register expires authenticated) :
    transaction.packet.expires = some (decimal expires.toNat) := by
  have fits := transaction.fits
  rw [handler] at fits
  simp only [packet, Packet.expires]
  rw [if_pos fits.1, fits.2.1]

/-- A pending REGISTER with a non-zero Expires value. -/
def Registers (transaction : Transaction) : Prop :=
  ∃ expires authenticated, transaction.onFinal = .register expires authenticated ∧ expires ≠ 0

theorem exists_register_of_isRegister (register : transaction.onFinal.isRegister = true) :
    ∃ expires authenticated, transaction.onFinal = .register expires authenticated := by
  match handler : transaction.onFinal with
  | .register expires authenticated => exact ⟨expires, authenticated, rfl⟩
  | .invite _ => simp [handler, FinalHandler.isRegister] at register
  | .ignore => simp [handler, FinalHandler.isRegister] at register

theorem Registers.isRegister (registers : transaction.Registers) :
    transaction.onFinal.isRegister = true := by
  obtain ⟨_, _, handler, -⟩ := registers
  rw [handler]
  rfl

theorem registers_packet_iff : transaction.packet.Registers ↔ transaction.Registers := by
  constructor
  · rintro ⟨value, expires, nonzero⟩
    have register : transaction.onFinal.isRegister = true :=
      isRegister_of_method (Option.some.inj (Packet.method_of_expires expires))
    obtain ⟨lifetime, authenticated, handler⟩ := exists_register_of_isRegister register
    refine ⟨lifetime, authenticated, handler, fun zero => nonzero ?_⟩
    rw [packet_expires handler, zero] at expires
    exact (Option.some.inj expires).symm.trans ((decimal_eq_zero_iff _).mpr rfl)
  · rintro ⟨lifetime, authenticated, handler, nonzero⟩
    refine ⟨_, packet_expires handler, fun zero => nonzero ?_⟩
    exact UInt32.toNat_inj.mp ((decimal_eq_zero_iff _).mp zero)

end Transaction

variable {Host : Type}

namespace UserAgent

variable (agent : UserAgent Host)

/-- The REGISTER transaction that `send_register` starts. -/
def registerTransaction (expires : UInt32) (authorization : Bytes) (now : Time) : Transaction :=
  { request := agent.registerRequest expires authorization
    branch := agent.freshBranch
    retransmitting := !agent.config.reliable
    interval := kT1
    retransmitAt := now + kT1
    deadline := now + kTransactionTimeout
    onProvisional := none
    onFinal := .register expires (authorization ≠ [])
    fits := ⟨rfl, rfl, rfl, rfl⟩ }

variable [UserAgentHost Host]

theorem sendRegister_eq (expires : UInt32) (authorization : Bytes) (now : Time) :
    agent.sendRegister expires authorization now =
      { agent with
        host := UserAgentHost.sendSip
          ((agent.registerTransaction expires authorization now).packet.bytes agent.config)
          agent.host
        draws := agent.draws + 1
        transactions :=
          agent.transactions.put (agent.registerTransaction expires authorization now)
        registration := { agent.registration with
          cseq := agent.registration.cseq + 1
          inFlight := true }
        log := agent.log ++
          [.sendSip (agent.registerTransaction expires authorization now).packet] } := rfl

end UserAgent

/-! ### What leaves the registration alone -/

/-- Between two states the registration did not change and nothing was sent or reported for it. -/
structure LeavesRegistration (before after : UserAgent Host) : Prop where
  config : after.config = before.config
  random : after.random = before.random
  draws : before.draws ≤ after.draws
  shuttingDown : after.shuttingDown = before.shuttingDown
  registration : after.registration = before.registration
  registers : half true after.transactions = half true before.transactions
  log : Grows (fun action => ¬ action.ConcernsRegistration) before.log after.log

namespace LeavesRegistration

variable {before after : UserAgent Host}

theorem refl (agent : UserAgent Host) : LeavesRegistration agent agent :=
  ⟨rfl, rfl, le_rfl, rfl, rfl, rfl, Grows.refl _⟩

theorem trans {later : UserAgent Host} (first : LeavesRegistration before after)
    (second : LeavesRegistration after later) : LeavesRegistration before later :=
  ⟨second.config.trans first.config, second.random.trans first.random,
    first.draws.trans second.draws, second.shuttingDown.trans first.shuttingDown,
    second.registration.trans first.registration, second.registers.trans first.registers,
    first.log.trans second.log⟩

theorem grew (leaves : LeavesRegistration before after) :
    Grows (fun _ => True) before.log after.log :=
  leaves.log.mono fun _ _ => trivial

variable [UserAgentHost Host]

theorem endCall (agent : UserAgent Host) (reason : EndReason) (status : Int) :
    LeavesRegistration agent (agent.endCall reason status) := by
  unfold UserAgent.endCall
  split
  · exact refl agent
  next call _ =>
    have closed :
        LeavesRegistration agent (if call.mediaOpen then agent.closeMedia else agent) := by
      split
      · exact { refl agent with log := Grows.single _ id }
      · exact refl agent
    exact { closed with log := closed.log.trans (Grows.single _ nofun) }

theorem onInviteFinal (agent : UserAgent Host) (context : InviteContext) (now : Time) :
    LeavesRegistration agent (agent.onInviteFinal context none now) := by
  unfold UserAgent.onInviteFinal
  dsimp only
  split
  · exact endCall agent _ _
  · exact refl agent

/-- What runs when the transaction of a call is over without a response. -/
theorem runFinal {handler : FinalHandler} (call : handler.isRegister = false)
    (agent : UserAgent Host) (now : Time) :
    LeavesRegistration agent (agent.runFinal handler none now) := by
  match handler with
  | .register _ _ => cases call
  | .invite context => exact onInviteFinal agent context now
  | .ignore => exact refl agent

end LeavesRegistration

/-! ### The end of a transaction -/

namespace UserAgent

/-- The key under which a response looks for its transaction. -/
def responseKey (response : Message) : Option Bytes :=
  (parseCseq (response.headerOr "cseq")).map fun cseq =>
    transactionKey (branchOf response) cseq.method

/-- A datagram is a response to a pending transaction. -/
def Answers (agent : UserAgent Host) (datagram : Bytes) (response : Message)
    (transaction : Transaction) : Prop :=
  parseMessage datagram = some response ∧ response.isResponse = true ∧
    ∃ key, responseKey response = some key ∧ agent.transactions.find key = some transaction

theorem Answers.unique {agent : UserAgent Host} {datagram : Bytes} {response other : Message}
    {transaction found : Transaction} (answers : agent.Answers datagram response transaction)
    (again : agent.Answers datagram other found) : other = response ∧ found = transaction := by
  obtain ⟨parsed, -, key, read, kept⟩ := answers
  obtain ⟨parsedAgain, -, keyAgain, readAgain, keptAgain⟩ := again
  cases parsed.symm.trans parsedAgain
  cases read.symm.trans readAgain
  cases kept.symm.trans keptAgain
  exact ⟨rfl, rfl⟩

theorem Answers.pending {agent : UserAgent Host} {datagram : Bytes} {response : Message}
    {transaction : Transaction} (answers : agent.Answers datagram response transaction) :
    transaction ∈ agent.transactions.values := by
  obtain ⟨-, -, key, -, found⟩ := answers
  exact (find_eq_some_iff.mp found).1

/-- The state in which the handler of an answered transaction runs. -/
def without (agent : UserAgent Host) (transaction : Transaction) : UserAgent Host :=
  { agent with transactions := agent.transactions.erase transaction.key }

theorem answerChallenge_fst (first second : UserAgent Host) (config : first.config = second.config)
    (random : first.random = second.random) (draws : first.draws = second.draws)
    (response : Option Message) (authenticated : Bool) :
    (first.answerChallenge response authenticated).1 =
      (second.answerChallenge response authenticated).1 := by
  have same (challenge : Message) (method uri : Bytes) :
      (first.authorizationFor challenge method uri).1 =
        (second.authorizationFor challenge method uri).1 := by
    unfold authorizationFor nextHex
    rw [config, random, draws]
    dsimp only
    split
    · rfl
    · split <;> rfl
  unfold answerChallenge
  rw [config]
  split
  · rfl
  · split
    · exact same _ _ _
    · rfl

@[simp]
theorem answerChallenge_landed (agent : UserAgent Host) (response : Option Message)
    (authenticated : Bool) :
    (agent.landed.answerChallenge response authenticated).1 =
      (agent.answerChallenge response authenticated).1 :=
  answerChallenge_fst agent.landed agent rfl rfl rfl response authenticated

@[simp]
theorem answerChallenge_without (agent : UserAgent Host) (transaction : Transaction)
    (response : Option Message) (authenticated : Bool) :
    ((agent.without transaction).answerChallenge response authenticated).1 =
      (agent.answerChallenge response authenticated).1 :=
  answerChallenge_fst (agent.without transaction) agent rfl rfl rfl response authenticated

theorem answerChallenge_snd (agent : UserAgent Host) (response : Option Message)
    (authenticated : Bool) :
    (agent.answerChallenge response authenticated).2 = agent ∨
      (agent.answerChallenge response authenticated).2 = agent.drawn := by
  unfold answerChallenge
  split
  · exact Or.inl rfl
  · split
    · exact agent.authorizationFor_snd _ _ _
    · exact Or.inl rfl

theorem answerChallenge_draws (agent : UserAgent Host) (response : Option Message)
    (authenticated : Bool) :
    ∃ draws, (agent.answerChallenge response authenticated).2 = { agent with draws } := by
  rcases agent.answerChallenge_snd response authenticated with same | drawn
  · exact ⟨agent.draws, same⟩
  · exact ⟨agent.draws + 1, drawn⟩

theorem status_of_answerChallenge {agent : UserAgent Host} {response : Message}
    {authenticated : Bool} {line : Bytes}
    (answered : (agent.answerChallenge (some response) authenticated).1 = some line) :
    200 ≤ response.status := by
  unfold answerChallenge at answered
  dsimp only at answered
  split at answered
  next challenge =>
    rcases challenge.1 with status | status <;> rw [status] <;> decide
  · cases answered

variable [UserAgentHost Host] (agent : UserAgent Host)

theorem onMessage_final {datagram : Bytes} {response : Message} {transaction : Transaction}
    (answers : agent.Answers datagram response transaction) (final : 200 ≤ response.status)
    (now : Time) :
    agent.onMessage datagram now =
      (agent.without transaction).runFinal transaction.onFinal (some response) now := by
  obtain ⟨parsed, isResponse, key, read, found⟩ := answers
  obtain ⟨cseq, number, rfl⟩ := Option.map_eq_some_iff.mp read
  unfold onMessage onResponse without
  simp only [parsed, isResponse, if_true, number, found, keyOf_of_find found]
  rw [if_neg (Int.not_lt.mpr final)]

theorem onMessage_provisional {datagram : Bytes} {response : Message} {transaction : Transaction}
    (answers : agent.Answers datagram response transaction) (provisional : response.status < 200)
    (now : Time) :
    agent.onMessage datagram now =
      match transaction.onProvisional with
      | some id => { agent with
          transactions := agent.transactions.put (transaction.proceed now) }.onInviteProvisional id
            response now
      | none =>
        { agent with transactions := agent.transactions.put (transaction.proceed now) } := by
  obtain ⟨parsed, isResponse, key, read, found⟩ := answers
  obtain ⟨cseq, number, rfl⟩ := Option.map_eq_some_iff.mp read
  unfold onMessage onResponse
  cases handler : transaction.onProvisional <;>
    simp only [parsed, isResponse, if_true, number, found, if_pos provisional, handler]

/-- What a datagram does that answers nothing pending: at most a stored ACK goes out again. -/
theorem onMessage_unanswered {datagram : Bytes} {message : Message}
    (parsed : parseMessage datagram = some message)
    (unanswered : ∀ transaction, ¬ agent.Answers datagram message transaction) (now : Time) :
    agent.onMessage datagram now =
      if message.isResponse then
        match (parseCseq (message.headerOr "cseq")).filter fun cseq =>
            isSuccess message.status && cseq.method = ascii "INVITE" with
        | none => agent
        | some _ =>
          match (agent.sameCall message).bind Call.ack with
          | some ack => agent.sendRaw ack.packet
          | none => agent
      else agent.onRequest message := by
  unfold onMessage
  rw [parsed]
  dsimp only
  split
  next isResponse =>
    unfold onResponse
    cases read : parseCseq (message.headerOr "cseq") with
    | none => rfl
    | some cseq =>
      have missing : agent.transactions.find (transactionKey (branchOf message) cseq.method) =
          none := by
        rw [Option.eq_none_iff_forall_ne_some]
        intro transaction found
        exact unanswered transaction
          ⟨parsed, isResponse, _, by rw [responseKey, read]; rfl, found⟩
      simp only [missing, Option.filter_some]
      split <;> rfl
  next => rfl

/-! ### Timers and lost connections -/

/-- The retransmissions of `on_timer` in one piece. -/
theorem retransmit_eq (now : Time) :
    ∃ host, agent.retransmit now =
      { agent with
        host
        transactions := agent.transactions.change (·.backOff now)
          fun transaction => transaction.backOff_key now
        log := agent.log ++ (agent.transactions.values.filter (·.due now)).map
          fun transaction => .sendSip transaction.packet } := by
  have sent : ∀ (values : List Transaction) (current : UserAgent Host), ∃ host,
      values.foldl (fun agent transaction =>
        if transaction.due now then agent.sendRaw transaction.packet else agent) current =
      { current with
        host
        log := current.log ++ (values.filter (·.due now)).map
          fun transaction => .sendSip transaction.packet } := by
    intro values
    induction values with
    | nil =>
      intro current
      exact ⟨current.host, by rw [filter_nil, map_nil, append_nil]; rfl⟩
    | cons transaction values hypothesis =>
      intro current
      rw [foldl_cons]
      split
      next due =>
        obtain ⟨host, equal⟩ := hypothesis (current.sendRaw transaction.packet)
        refine ⟨host, equal.trans ?_⟩
        simp only [sendRaw, filter_cons, due, if_true, map_cons, append_assoc,
          singleton_append]
      next notDue =>
        obtain ⟨host, equal⟩ := hypothesis current
        refine ⟨host, equal.trans ?_⟩
        simp only [filter_cons, notDue, if_false, Bool.false_eq_true]
  obtain ⟨host, equal⟩ := sent agent.transactions.values agent
  refine ⟨host, ?_⟩
  unfold retransmit
  rw [equal]

/-- What an expired transaction does to the registration: nothing, or the end of a REGISTER. -/
theorem expire_cases (now : Time) (key : Bytes) :
    LeavesRegistration agent (agent.expire now key) ∨
    ∃ transaction expires authenticated, agent.transactions.find key = some transaction ∧
      transaction.onFinal = .register expires authenticated ∧
      agent.expire now key =
        (agent.without transaction).onRegisterFinal none expires authenticated now := by
  unfold expire
  split
  · exact Or.inl (.refl agent)
  next transaction found =>
    cases side : transaction.onFinal.isRegister with
    | false =>
      have erased : LeavesRegistration agent
          { agent with transactions := agent.transactions.erase key } :=
        { LeavesRegistration.refl agent with registers := half_erase_other true found side }
      exact Or.inl (erased.trans (LeavesRegistration.runFinal side _ now))
    | true =>
      obtain ⟨expires, authenticated, handler⟩ := Transaction.exists_register_of_isRegister side
      refine Or.inr ⟨transaction, expires, authenticated, found, handler, ?_⟩
      rw [handler, without, keyOf_of_find found]
      rfl

/-- A response to a REGISTER. -/
theorem onMessage_register {datagram : Bytes} {response : Message} {transaction : Transaction}
    {expires : UInt32} {authenticated : Bool}
    (answers : agent.Answers datagram response transaction)
    (handler : transaction.onFinal = .register expires authenticated) (now : Time) :
    agent.onMessage datagram now =
      if response.status < 200 then
        { agent with transactions := agent.transactions.put (transaction.proceed now) }
      else
        (agent.without transaction).onRegisterFinal (some response) expires authenticated now := by
  split
  next provisional =>
    have silent : transaction.onProvisional = none := by
      have fits := transaction.fits
      rw [handler] at fits
      exact fits.2.2.1
    rw [agent.onMessage_provisional answers provisional now, silent]
  next final =>
    rw [agent.onMessage_final answers (Int.not_lt.mp final) now, handler]
    rfl

theorem onRegisterFinal_challenged {response : Option Message} {authenticated : Bool}
    {line : Bytes} (answered : (agent.answerChallenge response authenticated).1 = some line)
    (expires : UInt32) (now : Time) :
    agent.onRegisterFinal response expires authenticated now =
      (agent.landed.answerChallenge response authenticated).2.sendRegister expires line now := by
  unfold onRegisterFinal
  simp only [answerChallenge_landed, answered]

theorem onRegisterFinal_none (expires : UInt32) (authenticated : Bool) (now : Time) :
    agent.onRegisterFinal none expires authenticated now =
      if expires = 0 ∨ agent.registration.wanted = false then agent.landed
      else agent.landed.concludeRegister none expires now := by
  unfold onRegisterFinal answerChallenge
  dsimp only
  by_cases zero : expires = 0
  · rw [if_pos zero, if_pos (Or.inl zero)]
  · have kept : agent.landed.registration.wanted = agent.registration.wanted := rfl
    rw [if_neg zero, kept]
    cases agent.registration.wanted with
    | false => simp [isSuccess]
    | true => simp [zero]

theorem retransmit_log (now : Time) :
    (agent.retransmit now).log = agent.log ++ (agent.transactions.values.filter (·.due now)).map
      fun transaction => .sendSip transaction.packet := by
  obtain ⟨host, equal⟩ := agent.retransmit_eq now
  rw [equal]

end UserAgent

end KetPhone.Core
