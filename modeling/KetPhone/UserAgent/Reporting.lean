/-
This file compares what the app is told of the registration with what the agent
believes. The flag is changed by final responses, timeouts, stops and lost
connections, and only some of these report. Each function is shown to leave the
flag as the last of its own reports says, and as it was if it made none; a stop
and a shutdown clear it in silence. So over a whole run the flag is what the last
report or stop says.
-/

import KetPhone.UserAgent.Conduct
import KetPhone.UserAgent.Keeping

namespace KetPhone.Core

open Sip List UserAgent

variable {Host : Type}

/-- The statuses of the Registration events in a history. -/
def statuses (history : List Action) : List Int := history.filterMap Action.registrationStatus

@[simp]
theorem statuses_append (past added : List Action) :
    statuses (past ++ added) = statuses past ++ statuses added := filterMap_append

theorem statuses_of_not_concerns {added : List Action}
    (silent : ∀ action ∈ added, ¬ action.ConcernsRegistration) : statuses added = [] := by
  refine filterMap_eq_nil_iff.mpr fun action member => ?_
  cases action with
  | emit event => exact if_neg (silent _ member)
  | _ => rfl

/-- A flag that follows the reports. -/
def follow (flag : Bool) (told : List Int) : Bool :=
  told.foldl (fun _ status => UserAgent.isSuccess status) flag

/-- A registered agent wants to be. -/
def Registration.Asked (registration : Registration) : Prop :=
  registration.registered = true → registration.wanted = true

/-- Between two states the flag of the registration followed the reports. -/
structure Reports (before after : UserAgent Host) : Prop where
  told : ∃ added, after.log = before.log ++ added ∧
    after.registration.registered = follow before.registration.registered (statuses added)
  asked : before.registration.Asked → after.registration.Asked

/-- What tells of the registration: a report, or the call that stops it. -/
inductive Sign where
  | reports (status : Int)
  | stops

/-- The stops among the operations. -/
def Op.signs : Op → List Sign
  | .stopRegistration _ | .shutdown _ => [.stops]
  | _ => []

/-! ### The functions of the agent -/

namespace Reports

variable {before after later : UserAgent Host}

theorem silent {added : List Action} (log : after.log = before.log ++ added)
    (untold : statuses added = [])
    (same : after.registration.registered = before.registration.registered)
    (wanted : before.registration.wanted = true → after.registration.wanted = true) :
    Reports before after where
  told := ⟨added, log, by rw [untold]; exact same⟩
  asked := fun asked registered => wanted (asked (same.symm.trans registered))

theorem same (log : after.log = before.log)
    (same : after.registration.registered = before.registration.registered)
    (wanted : before.registration.wanted = true → after.registration.wanted = true) :
    Reports before after :=
  silent (log.trans (append_nil _).symm) rfl same wanted

theorem refl (agent : UserAgent Host) : Reports agent agent := same rfl rfl id

theorem trans (early : Reports before after) (late : Reports after later) :
    Reports before later where
  told := by
    obtain ⟨added, log, registered⟩ := early.told
    obtain ⟨more, logMore, registeredMore⟩ := late.told
    refine ⟨added ++ more, by rw [logMore, log, append_assoc], ?_⟩
    rw [registeredMore, registered, statuses_append]
    exact (foldl_append ..).symm
  asked := late.asked ∘ early.asked

theorem leaves (leaves : LeavesRegistration before after) : Reports before after := by
  obtain ⟨added, log, others⟩ := leaves.log
  refine silent log (statuses_of_not_concerns others)
    (congrArg Registration.registered leaves.registration) fun wanted => ?_
  rw [leaves.registration]
  exact wanted

theorem report (agent : UserAgent Host) (registration : Registration) (status : Int)
    (told : registration.registered = isSuccess status) (asked : registration.Asked) :
    Reports agent ({ agent with registration }.emit { kind := .registration, status }) where
  told := ⟨[_], rfl, told⟩
  asked := fun _ => asked

variable [UserAgentHost Host]

theorem sendRegister (before : UserAgent Host) (expires : UInt32) (authorization : Bytes)
    (now : Time) : Reports before (before.sendRegister expires authorization now) := by
  rw [sendRegister_eq]
  exact silent rfl rfl rfl id

theorem register (before : UserAgent Host) (registration : Registration)
    (kept : registration.registered = before.registration.registered ∧
      (before.registration.wanted = true → registration.wanted = true))
    (expires : UInt32) (authorization : Bytes) (now : Time) :
    Reports before ({ before with registration }.sendRegister expires authorization now) := by
  have set : Reports before { before with registration } := .same rfl kept.1 kept.2
  exact set.trans (sendRegister _ _ _ now)

omit [UserAgentHost Host] in
theorem answerChallenge (before : UserAgent Host) (response : Option Message)
    (authenticated : Bool) :
    Reports before (before.landed.answerChallenge response authenticated).2 := by
  rcases before.landed.answerChallenge_snd response authenticated with equal | drawn
  · rw [equal]
    exact same rfl rfl id
  · rw [drawn]
    exact same rfl rfl id

theorem onRegisterFinal (before : UserAgent Host) (response : Option Message) (expires : UInt32)
    (authenticated : Bool) (now : Time) :
    Reports before (before.onRegisterFinal response expires authenticated now) := by
  have challenged := answerChallenge before response authenticated
  unfold UserAgent.onRegisterFinal
  dsimp only
  split
  · exact challenged.trans (sendRegister _ _ _ now)
  · split
    · exact challenged
    · split
      · split
        · exact challenged.trans (sendRegister _ _ _ now)
        · exact challenged
      next wanted =>
        rw [Bool.not_eq_true', Bool.not_eq_false] at wanted
        exact challenged.trans (report _ _ _ rfl fun _ => wanted)

theorem runFinal (before : UserAgent Host) (handler : FinalHandler) (now : Time) :
    Reports before (before.runFinal handler none now) := by
  match handler with
  | .register expires authenticated => exact onRegisterFinal before none expires authenticated now
  | .invite context => exact leaves (LeavesRegistration.onInviteFinal before context now)
  | .ignore => exact refl before

theorem expire (before : UserAgent Host) (now : Time) (key : Bytes) :
    Reports before (before.expire now key) := by
  unfold UserAgent.expire
  split
  · exact refl before
  · have erased : Reports before
        { before with transactions := before.transactions.erase key } := same rfl rfl id
    exact erased.trans (runFinal _ _ now)

theorem retransmit (before : UserAgent Host) (now : Time) :
    Reports before (before.retransmit now) := by
  obtain ⟨host, equal⟩ := before.retransmit_eq now
  rw [equal]
  refine silent rfl ?_ rfl id
  refine filterMap_eq_nil_iff.mpr fun action member => ?_
  obtain ⟨transaction, -, rfl⟩ := mem_map.mp member
  rfl

theorem refresh (before : UserAgent Host) (now : Time) : Reports before (before.refresh now) := by
  unfold UserAgent.refresh
  split
  · exact refl before
  · split
    · refine register before _ ?_ _ _ now
      exact ⟨rfl, id⟩
    · exact refl before

theorem onTimer (before : UserAgent Host) (now : Time) : Reports before (before.onTimer now) := by
  have expired := loop_keeps (Reports before) (before.expiredKeys now)
    (fun state key _ reports => reports.trans (expire state now key)) (retransmit before now)
  exact (expired.trans (leaves (LeavesRegistration.awaitAck _ now))).trans (refresh _ now)

theorem onMessage (before : UserAgent Host) (datagram : Bytes) (now : Time) :
    Reports before (before.onMessage datagram now) := by
  rcases before.onMessage_cases datagram now with untouched | ⟨_, _, -, -, -, equal⟩ |
    ⟨response, transaction, expires, authenticated, -, -, -, equal⟩
  · exact leaves untouched
  · rw [equal]
    exact same rfl rfl id
  · rw [equal]
    have erased : Reports before (before.without transaction) := same rfl rfl id
    exact erased.trans (onRegisterFinal _ _ _ _ now)

theorem onTransportDown (before : UserAgent Host) (now : Time) :
    Reports before (before.onTransportDown now) := by
  have cleared : Reports before { before with transactions := OrderedMap.empty } := same rfl rfl id
  have failed := loop_keeps (Reports before) before.transactions.values
    (fun state transaction _ reports => reports.trans (runFinal state transaction.onFinal now))
    cleared
  unfold UserAgent.onTransportDown
  dsimp only
  split
  · exact failed.trans (report _ _ 503 rfl nofun)
  · exact failed

theorem onTransportUp (before : UserAgent Host) (now : Time) :
    Reports before (before.onTransportUp now) := by
  unfold UserAgent.onTransportUp
  split
  · exact refl before
  · refine register before _ ?_ _ _ now
    exact ⟨rfl, id⟩

theorem startRegistration (before : UserAgent Host) (now : Time) :
    Reports before (before.startRegistration now) := by
  unfold UserAgent.startRegistration
  split
  · exact refl before
  · dsimp only
    split
    · exact same rfl rfl fun _ => rfl
    · refine register before _ ?_ _ _ now
      exact ⟨rfl, fun _ => rfl⟩

theorem step (before : UserAgent Host) {op : Op} (keeps : op.signs = []) :
    Reports before (before.step op) := by
  cases op with
  | startRegistration now => exact startRegistration before now
  | stopRegistration now => cases keeps
  | call id target now => exact leaves (LeavesRegistration.call before id target now)
  | answer id now => exact leaves (LeavesRegistration.answer before id now)
  | reject id status => exact leaves (LeavesRegistration.reject before id status)
  | hangup id now => exact leaves (LeavesRegistration.hangup before id now)
  | shutdown now => cases keeps
  | transportDown now => exact onTransportDown before now
  | transportUp now => exact onTransportUp before now
  | message datagram now => exact onMessage before datagram now
  | timer now => exact onTimer before now
  | takeEvents => exact same rfl rfl id

end Reports

/-! ### Stopping -/

variable [UserAgentHost Host]

/-- Between two states the flag was cleared without a report. -/
def Clears (before after : UserAgent Host) : Prop :=
  ∃ added, after.log = before.log ++ added ∧ statuses added = [] ∧
    after.registration.registered = false

namespace Clears

theorem stopRegistration (before : UserAgent Host) (now : Time) :
    Clears before (before.stopRegistration now) := by
  unfold UserAgent.stopRegistration
  dsimp only
  split
  · rw [UserAgent.sendRegister_eq]
    exact ⟨[_], rfl, rfl, rfl⟩
  next idle =>
    rw [Bool.or_eq_true, not_or, Bool.not_eq_true] at idle
    exact ⟨[], (List.append_nil _).symm, rfl, idle.1⟩

theorem shutdown (before : UserAgent Host) (now : Time) : Clears before (before.shutdown now) := by
  unfold UserAgent.shutdown
  dsimp only
  split
  · exact stopRegistration { before with shuttingDown := true } now
  next call _ =>
    have hungUp := LeavesRegistration.hangup { before with shuttingDown := true } call.id now
    obtain ⟨added, log, others⟩ := hungUp.log
    obtain ⟨more, logMore, untold, cleared⟩ := stopRegistration
      ({ before with shuttingDown := true }.hangup call.id now).2 now
    refine ⟨added ++ more, by rw [logMore, log, append_assoc], ?_, cleared⟩
    rw [statuses_append, statuses_of_not_concerns others, untold, append_nil]

end Clears

/-! ### Runs -/

/-- What an operation shows of the registration: the call that stops it, then the reports. -/
def UserAgent.signs (agent : UserAgent Host) (op : Op) : List Sign :=
  op.signs ++ (statuses (agent.asked op)).map .reports

/-- What a run shows of the registration. -/
def signs (moments : List (UserAgent Host × Op)) : List Sign :=
  moments.flatMap fun moment => moment.1.signs moment.2

/-- The flag after a sign. -/
def Sign.next (_ : Bool) : Sign → Bool
  | .reports status => UserAgent.isSuccess status
  | .stops => false

omit [UserAgentHost Host] in
theorem foldl_next_reports (flag : Bool) (told : List Int) :
    (told.map Sign.reports).foldl Sign.next flag = follow flag told := foldl_map

/-- Each operation leaves the flag as the last of its signs says. -/
theorem registered_step (agent : UserAgent Host) (op : Op) :
    (agent.step op).registration.registered =
      (agent.signs op).foldl Sign.next agent.registration.registered := by
  have cleared (clears : Clears agent (agent.step op)) (stops : op.signs = [.stops]) :
      (agent.step op).registration.registered =
        (agent.signs op).foldl Sign.next agent.registration.registered := by
    obtain ⟨added, log, untold, registered⟩ := clears
    unfold UserAgent.signs
    rw [asked_of_log log, stops, untold, registered]
    rfl
  by_cases keeps : op.signs = []
  · obtain ⟨added, log, registered⟩ := (Reports.step agent keeps).told
    unfold UserAgent.signs
    rw [asked_of_log log, keeps, registered, nil_append, foldl_next_reports]
  · cases op with
    | stopRegistration now => exact cleared (Clears.stopRegistration agent now) rfl
    | shutdown now => exact cleared (Clears.shutdown agent now) rfl
    | _ => exact absurd rfl keeps

theorem registered_run (config : UserAgentConfig) (host : Host) (random : Random)
    (ops : List Op) :
    (run UserAgent.step (UserAgent.create config host random) ops).registration.registered =
      (signs (moments UserAgent.step (UserAgent.create config host random) ops)).foldl Sign.next
        false := by
  refine moments_keep (fun past agent => agent.registration.registered =
    (signs past).foldl Sign.next false) rfl (fun past agent op holds => ?_) ops
  unfold signs at holds ⊢
  rw [flatMap_append, foldl_append, ← holds, flatMap_singleton]
  exact registered_step agent op

theorem asked_run (config : UserAgentConfig) (host : Host) (random : Random) (ops : List Op) :
    (run UserAgent.step (UserAgent.create config host random) ops).registration.Asked := by
  refine loop_keeps (fun agent : UserAgent Host => agent.registration.Asked) ops
    (fun agent op _ asked => ?_) nofun
  have cleared (clears : Clears agent (agent.step op)) : (agent.step op).registration.Asked := by
    obtain ⟨-, -, -, unregistered⟩ := clears
    exact fun registered => nomatch unregistered.symm.trans registered
  cases op with
  | stopRegistration now => exact cleared (Clears.stopRegistration agent now)
  | shutdown now => exact cleared (Clears.shutdown agent now)
  | _ => exact (Reports.step agent rfl).asked asked

omit [UserAgentHost Host] in
/-- The last sign decides. -/
theorem foldl_next_iff (history : List Sign) :
    history.foldl Sign.next false = true ↔
      ∃ earlier status later, history = earlier ++ .reports status :: later ∧
        isSuccess status = true ∧ (∀ other, .reports other ∉ later) ∧
        .stops ∉ later := by
  constructor
  · intro holds
    cases history using List.reverseRecOn with
    | nil => cases holds
    | append_singleton earlier last =>
      rw [foldl_append] at holds
      cases last with
      | reports status =>
        exact ⟨earlier, status, [], rfl, holds, fun _ => not_mem_nil, not_mem_nil⟩
      | stops => cases holds
  · rintro ⟨earlier, status, later, rfl, success, latest, going⟩
    have nothing : later = [] := by
      refine eq_nil_iff_forall_not_mem.mpr fun sign member => ?_
      cases sign with
      | reports other => exact latest other member
      | stops => exact going member
    rw [nothing, foldl_append]
    exact success

/-- In every state of a run the agent is registered exactly when there was a report, the latest one
tells of a success, and nothing has stopped the registration since. -/
theorem registered_iff_reported (config : UserAgentConfig) (host : Host) (random : Random)
    (ops : List Op) :
    (run UserAgent.step (UserAgent.create config host random) ops).registration.registered = true ↔
      ∃ earlier status later,
        signs (moments UserAgent.step (UserAgent.create config host random) ops) =
          earlier ++ .reports status :: later ∧
        UserAgent.isSuccess status = true ∧ (∀ other, .reports other ∉ later) ∧
        .stops ∉ later := by
  rw [registered_run]
  exact foldl_next_iff _

end KetPhone.Core
