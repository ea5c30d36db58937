/-
This file reads a run as a ledger of requests: what was asked for in it, which
requests were sent, and which methods a step may send.
-/

import KetPhone.UserAgent.Acknowledging
import KetPhone.UserAgent.Setup

namespace KetPhone.Core

open Sip List UserAgent

variable {Host : Type}
variable {added past : List Action} {before after agent : UserAgent Host} {message : Option Message}
  {call here : Call}

/-! ### Dialogs -/

/-- A call whose dialog is open at both ends. -/
def Call.Settled (call : Call) : Prop := call.state = .answering ∨ call.state = .confirmed

section Leaving

/-- The pending INVITE that an operation brings a response to, with the response. -/
def UserAgent.hears (agent : UserAgent Host) : Op → Option (InviteContext × Message)
  | .message datagram _ =>
    ((parseMessage datagram).filter Message.isResponse).bind fun response =>
      ((responseKey response).bind agent.transactions.find).bind fun transaction =>
        match transaction.onFinal with
        | .invite context => some (context, response)
        | _ => none
  | _ => none

theorem UserAgent.hears_eq_some_iff {op : Op} {context : InviteContext} {response : Message} :
    agent.hears op = some (context, response) ↔ ∃ datagram now transaction,
      op = .message datagram now ∧ agent.Answers datagram response transaction ∧
        transaction.onFinal = .invite context := by
  constructor
  · intro hears
    match op with
    | .message datagram now =>
      obtain ⟨heard, parsed, found⟩ := Option.bind_eq_some_iff.mp hears
      obtain ⟨parsed, isResponse⟩ := Option.filter_eq_some_iff.mp parsed
      obtain ⟨transaction, pending, invites⟩ := Option.bind_eq_some_iff.mp found
      obtain ⟨key, read, find⟩ := Option.bind_eq_some_iff.mp pending
      split at invites
      next handler =>
        cases invites
        exact ⟨datagram, now, transaction, rfl, ⟨parsed, isResponse, key, read, find⟩, handler⟩
      · cases invites
  · rintro ⟨datagram, now, transaction, rfl, ⟨parsed, isResponse, key, read, find⟩, invites⟩
    show ((parseMessage datagram).filter Message.isResponse).bind _ = _
    rw [parsed, Option.filter_some_pos isResponse, Option.bind_some, read, Option.bind_some, find,
      Option.bind_some, invites]

variable [UserAgentHost Host]

/-- What was asked for in a stretch of a run, requests that were sent again apart. -/
def acts (history : List (UserAgent Host × Op)) : List Action :=
  history.flatMap fun moment => moment.1.started moment.2

end Leaving

/-- The request that is sent. -/
def Action.request : Action → Option Request
  | .sendSip (.request request _) => some request
  | _ => none

/-- The requests that were sent. -/
def sent (past : List Action) : List Request := past.filterMap Action.request

variable [UserAgentHost Host]

/-! ### The ledger of requests -/

omit [UserAgentHost Host] in
theorem sent_append (past added : List Action) : sent (past ++ added) = sent past ++ sent added :=
  filterMap_append

theorem Call.farewell_sent (call : Call) (reason : EndReason) (status : Int) :
    sent (call.farewell reason status) = [] := by
  unfold Call.farewell
  split <;> rfl

/-- The requests that are sent have allowed methods. -/
def SendsOnly (allowed : Bytes → Prop) (added : List Action) : Prop :=
  ∀ request ∈ sent added, allowed request.method

namespace SendsOnly

variable {allowed : Bytes → Prop}

theorem of_silent (silent : sent added = []) : SendsOnly allowed added := by
  intro request member
  rw [silent] at member
  exact absurd member not_mem_nil

theorem farewell (call : Call) (reason : EndReason) (status : Int) :
    SendsOnly allowed (call.farewell reason status) :=
  of_silent (call.farewell_sent reason status)

theorem ack (ack : Ack) (fine : allowed (ascii "ACK")) :
    SendsOnly allowed [.sendSip ack.packet] := by
  intro request member
  cases mem_singleton.mp member
  rw [ack.isAck]
  exact fine

theorem begun {transaction : Transaction} {request : Request} {branch : Bytes}
    {onFinal : FinalHandler} (begun : transaction.Begun request branch onFinal)
    (fine : allowed request.method) : SendsOnly allowed [.sendSip transaction.packet] := by
  rw [begun.packet]
  intro other member
  cases mem_singleton.mp member
  exact fine

theorem of_registers (side : RegisterSide before after) (log : after.log = before.log ++ added)
    (fine : allowed (ascii "REGISTER")) : SendsOnly allowed added := by
  intro request member
  obtain ⟨more, equal, concerns⟩ := side.frame.log
  obtain ⟨action, member, asks⟩ := mem_filterMap.mp member
  rw [append_cancel_left (log.symm.trans equal)] at member
  have register := (concerns action member).1
  match action with
  | .sendSip (.request _ _) =>
    cases asks
    rw [show request.method = ascii "REGISTER" from Option.some.inj register]
    exact fine

theorem append {first second : List Action} (early : SendsOnly allowed first)
    (late : SendsOnly allowed second) : SendsOnly allowed (first ++ second) := by
  intro request member
  rw [sent_append, mem_append] at member
  exact member.elim (early request) (late request)

end SendsOnly

/-! ### Whole runs -/

theorem acts_concat (history : List (UserAgent Host × Op)) (agent : UserAgent Host) (op : Op) :
    acts (history ++ [(agent, op)]) = acts history ++ agent.started op := by
  unfold acts
  rw [flatMap_append, flatMap_singleton]

end KetPhone.Core
