/-
This file separates the two halves of the user agent: its calls, and its
registration. Both share the map of transactions; they stay apart in it because
the method ends the key. Every function that handles the registration is gone
through here, and leaves the call and its transactions alone.
-/

import KetPhone.UserAgent.Dispatch
import Mathlib.Logic.Relation

namespace KetPhone.Core

open Sip OrderedMap UserAgent

/-! ### Requests by their method -/

/-- The method of a request that this side sends. -/
def Packet.method : Packet → Option Bytes
  | .request content _ => some content.method
  | .response _ => none
  | .ackForFailure _ _ => some (ascii "ACK")

/-- The body that a message of this side carries. -/
def Packet.body : Packet → Bytes
  | .request content _ => content.body
  | .response content => content.body
  | .ackForFailure _ _ => []

/-- Sends a REGISTER or reports on the registration. -/
def Action.ConcernsRegistration : Action → Prop
  | .sendSip packet => packet.method = some (ascii "REGISTER")
  | .emit event => event.kind = .registration
  | _ => False

/-- Sends nothing with a body. -/
def Action.Bodyless : Action → Prop
  | .sendSip packet => packet.body = []
  | _ => True

/-- A positive answer to an INVITE. -/
def Response.Accepts (response : Response) : Prop :=
  response.status = 200 ∧ response.request.method = ascii "INVITE"

/-- What the call functions do besides ringing, starting media, accepting an INVITE and
acknowledging its acceptance. -/
def Action.Routine : Action → Prop
  | .sendSip (.request request _) =>
    request.method = ascii "INVITE" ∨ request.method = ascii "BYE" ∨
      request.method = ascii "CANCEL"
  | .sendSip (.response response) => ¬ response.Accepts
  | .sendSip (.ackForFailure _ _) => True
  | .emit event => event.kind ≠ .registration ∧ event.kind ≠ .callIncoming
  | .startMedia _ _ => False
  | .begin _ _ _ => False
  | _ => True

theorem register_ne_invite : ascii "REGISTER" ≠ ascii "INVITE" := by decide

theorem register_ne_bye : ascii "REGISTER" ≠ ascii "BYE" := by decide

theorem register_ne_cancel : ascii "REGISTER" ≠ ascii "CANCEL" := by decide

theorem Action.Routine.not_concernsRegistration {action : Action} (routine : action.Routine) :
    ¬ action.ConcernsRegistration := by
  intro concerns
  match action with
  | .sendSip (.request request _) =>
    have register : request.method = ascii "REGISTER" := Option.some.inj concerns
    rcases routine with invite | bye | cancel
    · exact register_ne_invite (register.symm.trans invite)
    · exact register_ne_bye (register.symm.trans bye)
    · exact register_ne_cancel (register.symm.trans cancel)
  | .sendSip (.response _) => exact nomatch concerns
  | .sendSip (.ackForFailure _ _) => exact absurd (Option.some.inj concerns) (by decide)
  | .emit _ => exact routine.1 concerns

theorem Action.routine_response {response : Response} (code : Int)
    (status : response.status = code) (other : code ≠ 200) :
    Action.Routine (.sendSip (.response response)) :=
  fun accepts => other (status.symm.trans accepts.1)

/-! ### The two halves of the transactions -/

def FinalHandler.isRegister : FinalHandler → Bool
  | register _ _ => true
  | _ => false

namespace Transaction

variable {transaction other : Transaction}

theorem method_of_isRegister (register : transaction.onFinal.isRegister = true) :
    transaction.method = ascii "REGISTER" := by
  have fits := transaction.fits
  cases handler : transaction.onFinal with
  | register expires authenticated =>
    rw [handler] at fits
    exact fits.1
  | invite context => simp [handler, FinalHandler.isRegister] at register
  | ignore => simp [handler, FinalHandler.isRegister] at register

theorem method_of_not_isRegister (call : transaction.onFinal.isRegister = false) :
    transaction.method = ascii "INVITE" ∨ transaction.method = ascii "BYE" ∨
      transaction.method = ascii "CANCEL" := by
  have fits := transaction.fits
  cases handler : transaction.onFinal with
  | register expires authenticated => simp [handler, FinalHandler.isRegister] at call
  | invite context =>
    rw [handler] at fits
    exact Or.inl fits.1
  | ignore =>
    rw [handler] at fits
    exact Or.inr fits.1

theorem isRegister_of_method (register : transaction.method = ascii "REGISTER") :
    transaction.onFinal.isRegister = true := by
  rw [← Bool.not_eq_false]
  intro call
  rcases method_of_not_isRegister call with invite | bye | cancel
  · exact register_ne_invite (register.symm.trans invite)
  · exact register_ne_bye (register.symm.trans bye)
  · exact register_ne_cancel (register.symm.trans cancel)

theorem key_getLast? (nonempty : transaction.method ≠ []) :
    transaction.key.getLast? = transaction.method.getLast? := by
  unfold key transactionKey
  rw [List.getLast?_append_of_ne_nil _ nonempty]

theorem key_ne_of_isRegister (register : transaction.onFinal.isRegister = true)
    (call : other.onFinal.isRegister = false) : transaction.key ≠ other.key := by
  intro same
  have method := method_of_isRegister register
  have differs : other.method ≠ [] ∧ other.method.getLast? ≠ (ascii "REGISTER").getLast? := by
    rcases method_of_not_isRegister call with equal | equal | equal <;> rw [equal] <;> decide
  apply differs.2
  rw [← key_getLast? differs.1, ← same, key_getLast? (by rw [method]; decide), method]

end Transaction

/-- The transactions of one half: those whose handler is, or is not, a registration's. -/
def half (register : Bool) (transactions : OrderedMap Transaction.key) (key : Bytes) :
    Option Transaction :=
  (transactions.find key).filter fun transaction => transaction.onFinal.isRegister == register

section Halves

variable {transactions : OrderedMap Transaction.key} {transaction : Transaction} (register : Bool)

theorem half_eq_some {key : Bytes} :
    half register transactions key = some transaction ↔
      transactions.find key = some transaction ∧ transaction.onFinal.isRegister = register := by
  unfold half
  rw [Option.filter_eq_some_iff, beq_iff_eq]

theorem half_eq_none_of_key (other : transaction.onFinal.isRegister = !register) :
    half register transactions transaction.key = none := by
  rw [Option.eq_none_iff_forall_ne_some]
  intro found same
  obtain ⟨kept, side⟩ := (half_eq_some register).mp same
  have key := keyOf_of_find kept
  cases register with
  | true => exact Transaction.key_ne_of_isRegister side other key
  | false => exact Transaction.key_ne_of_isRegister other side key.symm

theorem half_put_other (other : transaction.onFinal.isRegister = !register) :
    half register (transactions.put transaction) = half register transactions := by
  funext key
  by_cases same : key = transaction.key
  · subst same
    rw [half_eq_none_of_key register other, half_eq_none_of_key register other]
  · unfold half
    rw [find_put, if_neg same]

theorem mem_values_of_half {others : OrderedMap Transaction.key}
    (same : half register transactions = half register others)
    (side : transaction.onFinal.isRegister = register)
    (member : transaction ∈ transactions.values) :
    transaction ∈ others.values := by
  rw [mem_values_iff] at member ⊢
  have found : half register transactions transaction.key = some transaction :=
    (half_eq_some register).mpr ⟨member, side⟩
  rw [same] at found
  exact ((half_eq_some register).mp found).1

theorem half_erase (erased key : Bytes) :
    half register (transactions.erase erased) key =
      if key = erased then none else half register transactions key := by
  unfold half
  rw [find_erase]
  split <;> rfl

theorem half_erase_other {key : Bytes} (found : transactions.find key = some transaction)
    (other : transaction.onFinal.isRegister = !register) :
    half register (transactions.erase key) = half register transactions := by
  funext place
  rw [half_erase]
  split
  next same =>
    rw [same, ← keyOf_of_find found, half_eq_none_of_key register other]
  next => rfl

end Halves

/-! ### Draws -/

section Draws

variable {Host : Type}

theorem UserAgent.newSrtpKey_snd (agent : UserAgent Host) (call : Call) :
    (agent.newSrtpKey call).2.2 = agent ∨ (agent.newSrtpKey call).2.2 = agent.drawn := by
  unfold newSrtpKey
  split
  · split <;> exact Or.inr rfl
  · exact Or.inl rfl

theorem UserAgent.authorizationFor_snd (agent : UserAgent Host) (challenge : Message)
    (method uri : Bytes) :
    (agent.authorizationFor challenge method uri).2 = agent ∨
      (agent.authorizationFor challenge method uri).2 = agent.drawn := by
  unfold authorizationFor
  dsimp only
  split
  · exact Or.inl rfl
  · split
    · exact Or.inl rfl
    · dsimp only
      split
      · exact Or.inr rfl
      · exact Or.inl rfl

end Draws

/-! ### What handles the registration -/

section Registers

variable {Host : Type} {before after : UserAgent Host}

/-- A message that a datagram held. -/
def Received (message : Message) : Prop := ∃ datagram, parseMessage datagram = some message

/-- What a request proves its sender with: nothing, or the answer to a challenge that came in. -/
def Credentials (came : Message → Prop) (agent : UserAgent Host) (method uri line : Bytes) : Prop :=
  line = [] ∨ ∃ (asked : UserAgent Host) (challenge : Message), asked.config = agent.config ∧
    asked.random = agent.random ∧ came challenge ∧
      (asked.authorizationFor challenge method uri).1 = some line

variable [UserAgentHost Host]

/-- Between two states nothing changed that has to do with calls: only the registration with its
REGISTER transactions, and whether the agent is shutting down. -/
inductive RegisterSide : UserAgent Host → UserAgent Host → Prop
  | refl (agent : UserAgent Host) : RegisterSide agent agent
  | drawn {before after : UserAgent Host} (side : RegisterSide before after) :
    RegisterSide before after.drawn
  | close {before after : UserAgent Host} (side : RegisterSide before after) :
    RegisterSide before { after with shuttingDown := true }
  | setRegistration {before after : UserAgent Host} (side : RegisterSide before after)
      (registration : Registration) (callId : registration.callId = after.registration.callId)
      (fromTag : registration.fromTag = after.registration.fromTag) :
    RegisterSide before { after with registration }
  | report {before after : UserAgent Host} (side : RegisterSide before after) (status : Int) :
    RegisterSide before (after.emit { kind := .registration, status })
  | erase {before after : UserAgent Host} {key : Bytes} {transaction : Transaction}
      (side : RegisterSide before after) (found : after.transactions.find key = some transaction)
      (register : transaction.onFinal.isRegister = true) :
    RegisterSide before { after with transactions := after.transactions.erase key }
  | proceed {before after : UserAgent Host} {transaction : Transaction}
      (side : RegisterSide before after) (pending : transaction ∈ after.transactions.values)
      (register : transaction.onFinal.isRegister = true) (now : Time) :
    RegisterSide before
      { after with transactions := after.transactions.put (transaction.proceed now) }
  | sendRegister {before after : UserAgent Host} (side : RegisterSide before after)
      (expires : UInt32) (authorization : Bytes) (now : Time)
      (credentials : Credentials Received after (ascii "REGISTER") after.config.registrar
        authorization) :
    RegisterSide before (after.sendRegister expires authorization now)

/-- What stays while nothing changes that has to do with calls. -/
structure RegisterFrame (before after : UserAgent Host) : Prop where
  config : after.config = before.config
  random : after.random = before.random
  draws : before.draws ≤ after.draws
  current : after.current = before.current
  calls : half false after.transactions = half false before.transactions
  log : Grows (fun action => action.ConcernsRegistration ∧ action.Bodyless) before.log after.log

namespace RegisterSide

theorem frame (side : RegisterSide before after) : RegisterFrame before after := by
  induction side with
  | refl => exact ⟨rfl, rfl, le_rfl, rfl, rfl, Grows.refl _⟩
  | drawn _ frame => exact { frame with draws := frame.draws.trans (Nat.le_succ _) }
  | close _ frame => exact { frame with }
  | setRegistration _ _ _ _ frame => exact { frame with }
  | report _ _ frame =>
    exact { frame with log := frame.log.trans (Grows.single _ ⟨rfl, trivial⟩) }
  | erase _ found register frame =>
    exact { frame with calls := (half_erase_other false found register).trans frame.calls }
  | proceed _ _ register _ frame =>
    exact { frame with calls := (half_put_other false
      ((Transaction.proceed_onFinal ..).symm ▸ register)).trans frame.calls }
  | sendRegister _ _ _ _ _ frame =>
    unfold UserAgent.sendRegister UserAgent.sendRequest
    rw [dif_pos rfl]
    exact { frame with
      draws := frame.draws.trans (Nat.le_succ _)
      calls := (half_put_other false rfl).trans frame.calls
      log := frame.log.trans (Grows.single _ ⟨rfl, rfl⟩) }

theorem grew (side : RegisterSide before after) : Grows (fun _ => True) before.log after.log :=
  side.frame.log.mono fun _ _ => trivial

theorem landed (side : RegisterSide before after) : RegisterSide before after.landed :=
  side.setRegistration _ (by rfl) (by rfl)

theorem authorizationFor (side : RegisterSide before after) (challenge : Message)
    (method uri : Bytes) :
    RegisterSide before (after.authorizationFor challenge method uri).2 := by
  rcases after.authorizationFor_snd challenge method uri with same | drawn
  · rw [same]
    exact side
  · rw [drawn]
    exact side.drawn

theorem answerChallenge (side : RegisterSide before after) (response : Option Message)
    (authenticated : Bool) :
    RegisterSide before (after.answerChallenge response authenticated).2 := by
  unfold UserAgent.answerChallenge
  split
  · exact side
  · split
    · exact side.authorizationFor _ _ _
    · exact side

theorem concludeRegister (side : RegisterSide before after) (response : Option Message)
    (expires : UInt32) (now : Time) :
    RegisterSide before (after.concludeRegister response expires now) := by
  unfold UserAgent.concludeRegister
  exact (side.setRegistration _ (by rfl) (by rfl)).report _

theorem startRegistration (side : RegisterSide before after) (now : Time) :
    RegisterSide before (after.startRegistration now) := by
  unfold UserAgent.startRegistration
  split
  · exact side
  · dsimp only
    split
    · exact side.setRegistration _ (by rfl) (by rfl)
    · exact (side.setRegistration _ (by rfl) (by rfl)).sendRegister _ _ now (Or.inl rfl)

theorem stopRegistration (side : RegisterSide before after) (now : Time) :
    RegisterSide before (after.stopRegistration now) := by
  unfold UserAgent.stopRegistration
  dsimp only
  split
  · have stopped := side.setRegistration
      { after.registration with wanted := false, nextAttempt := none } rfl rfl
    exact (stopped.setRegistration _ (by rfl) (by rfl)).sendRegister _ _ now (Or.inl rfl)
  · exact side.setRegistration _ (by rfl) (by rfl)

theorem credentials {agent : UserAgent Host} {response : Option Message} {authenticated : Bool}
    {line : Bytes} (received : ∀ message, response = some message → Received message)
    (answered : (agent.answerChallenge response authenticated).1 = some line) :
    Credentials Received (agent.answerChallenge response authenticated).2 (ascii "REGISTER")
      agent.config.registrar line := by
  have kept : RegisterFrame agent (agent.answerChallenge response authenticated).2 :=
    ((RegisterSide.refl agent).answerChallenge response authenticated).frame
  refine Or.inr ⟨agent, response.getD {}, kept.config.symm, kept.random.symm, ?_⟩
  unfold UserAgent.answerChallenge at answered
  split at answered
  · cases answered
  next challenge =>
    split at answered
    · exact ⟨received challenge rfl, answered⟩
    · cases answered

theorem onRegisterFinal (side : RegisterSide before after) (response : Option Message)
    (received : ∀ message, response = some message → Received message) (expires : UInt32)
    (authenticated : Bool) (now : Time) :
    RegisterSide before (after.onRegisterFinal response expires authenticated now) := by
  unfold UserAgent.onRegisterFinal
  have challenged := side.landed.answerChallenge response authenticated
  dsimp only
  split
  next line answered =>
    refine challenged.sendRegister _ _ now ?_
    rw [((RegisterSide.refl after.landed).answerChallenge response authenticated).frame.config]
    exact credentials received answered
  · split
    · exact challenged
    · split
      · split
        · exact challenged.sendRegister _ _ now (Or.inl rfl)
        · exact challenged
      · exact challenged.concludeRegister _ _ _

theorem refresh (side : RegisterSide before after) (now : Time) :
    RegisterSide before (after.refresh now) := by
  unfold UserAgent.refresh
  split
  · exact side
  · split
    · exact (side.setRegistration _ (by rfl) (by rfl)).sendRegister _ _ now (Or.inl rfl)
    · exact side

theorem onTransportUp (side : RegisterSide before after) (now : Time) :
    RegisterSide before (after.onTransportUp now) := by
  unfold UserAgent.onTransportUp
  split
  · exact side
  · exact (side.setRegistration _ (by rfl) (by rfl)).sendRegister _ _ now (Or.inl rfl)

end RegisterSide

end Registers

end KetPhone.Core
