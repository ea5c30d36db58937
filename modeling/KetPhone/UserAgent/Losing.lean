/-
This file compares the loss of a connection with what is documented for it. Every
pending request ends as if it had timed out, a call that is still being set up ends
with its INVITE, any other call keeps its media, and a registration that was in
place is reported lost with a 503. The handlers of the pending requests run before
that report is due. A refresh among them reports its own timeout, a 408, and clears
the flag, and then there is nothing left to report lost.
-/

import KetPhone.UserAgent.Finishing
import KetPhone.UserAgent.Reporting
import KetPhone.UserAgent.Setup

namespace KetPhone.Core

open Sip List UserAgent

variable {Host : Type}
variable {call : Call} (agent : UserAgent Host) (now : Time)

/-- The final handler that a moment notes, by its request, and the response it was given. -/
def Moment.handled : Moment → Option ((Bytes × Bytes) × Option Message)
  | .finishes ticket response _ => some (ticket, response)
  | _ => none

/-- The final handlers that ran, in order. -/
def handled (trace : List Moment) : List ((Bytes × Bytes) × Option Message) :=
  trace.filterMap Moment.handled

variable [UserAgentHost Host]

/-- What the loss of the connection is documented to do. -/
structure Lost (state : Traced Host) (now : Time) : Prop where
  /-- No request is pending. -/
  emptied : (state.step (.transportDown now)).agent.transactions = OrderedMap.empty
  /-- The final handler of each pending request ran once, without a response, and no other. -/
  finished : handled (state.step (.transportDown now)).trace = handled state.trace ++
    state.agent.transactions.values.map fun transaction => (transaction.ticket, none)
  kept : ∀ call, state.agent.current = some call → call.state ≠ .calling →
    (state.step (.transportDown now)).agent.current = some call ∧
      .closeMedia ∉ state.agent.asked (.transportDown now)
  ended : ∀ call, state.agent.current = some call → call.state = .calling →
    (state.step (.transportDown now)).agent.current = none ∧
      (state.agent.asked (.transportDown now)).filterMap Action.ended = [call.id]
  unregistered : (state.step (.transportDown now)).agent.registration.registered = false
  reported : state.agent.registration.registered = true →
    503 ∈ statuses (state.agent.asked (.transportDown now))

/-! ### The handlers -/

/-- The state in which the loss itself is reported: the final handlers have run. -/
def UserAgent.failed (agent : UserAgent Host) (now : Time) : UserAgent Host :=
  agent.transactions.values.foldl
    (fun agent transaction => agent.runFinal transaction.onFinal none now)
    { agent with transactions := OrderedMap.empty }

theorem UserAgent.transportDown_eq :
    agent.step (.transportDown now) =
      if (agent.failed now).registration.registered then
        { agent.failed now with
          registration := { (agent.failed now).registration with registered := false } }.emit
            { kind := .registration, status := 503 }
      else agent.failed now := rfl

theorem UserAgent.failed_keeps (invariant : UserAgent Host → Prop) {agent : UserAgent Host}
    {now : Time} (holds : invariant { agent with transactions := OrderedMap.empty })
    (kept : ∀ later, ∀ transaction ∈ agent.transactions.values, invariant later →
      invariant (later.runFinal transaction.onFinal none now)) : invariant (agent.failed now) :=
  loop_keeps invariant agent.transactions.values kept holds

theorem UserAgent.failed_transactions : (agent.failed now).transactions = OrderedMap.empty :=
  failed_keeps (fun later => later.transactions = OrderedMap.empty) rfl
    fun later transaction _ empty =>
      (later.runFinal_none_transactions now transaction.onFinal).trans empty

theorem handled_append (trace more : List Moment) :
    handled (trace ++ more) = handled trace ++ handled more := filterMap_append

theorem handled_acts (added : List Action) : handled (added.map .acts) = [] := by
  unfold handled
  rw [filterMap_map]
  exact filterMap_eq_nil_iff.mpr fun _ _ => rfl

theorem handled_foldl_finish (values : List Transaction) (state : Traced Host) (now : Time) :
    handled (values.foldl (Traced.finish none now) state).trace = handled state.trace ++
      values.map fun transaction => (transaction.ticket, none) := by
  induction values generalizing state with
  | nil => exact (append_nil _).symm
  | cons transaction values hypothesis =>
    have first : handled (state.finish none now transaction).trace =
        handled state.trace ++ [(transaction.ticket, none)] := by
      show handled (state.trace ++ [.finishes _ none _] ++ List.map .acts _) = _
      rw [handled_append, handled_append, handled_acts, append_nil]
      rfl
    rw [foldl_cons, hypothesis, first, append_assoc, map_cons]
    rfl

theorem handled_transportDown (state : Traced Host) (now : Time) :
    handled (state.step (.transportDown now)).trace = handled state.trace ++
      state.agent.transactions.values.map fun transaction => (transaction.ticket, none) := by
  have failed := handled_foldl_finish state.agent.transactions.values
    { state with agent := { state.agent with transactions := OrderedMap.empty } } now
  show handled (_ ++ List.map .acts _) = _
  rw [handled_append, handled_acts, append_nil]
  exact failed

/-! ### The call -/

theorem UserAgent.Linked.failed_kept {agent : UserAgent Host} (linked : agent.Linked)
    (present : agent.current = some call) (settled : call.state ≠ .calling) (now : Time) :
    (agent.failed now).current = some call ∧
      Grows (· ≠ .closeMedia) agent.log (agent.failed now).log := by
  refine failed_keeps (fun later => later.current = some call ∧
    Grows (· ≠ .closeMedia) agent.log later.log) ⟨present, .refl _⟩
    fun later transaction pending kept => ?_
  match handler : transaction.onFinal with
  | .register expires authenticated =>
    have side := (RegisterSide.refl later).onRegisterFinal none nofun expires authenticated now
    refine ⟨side.frame.current.trans kept.1, kept.2.trans (side.frame.log.mono ?_)⟩
    rintro action ⟨concerns, -⟩ rfl
    exact concerns
  | .invite context =>
    have foreign : ¬ (later.callOf context).isSome = true := by
      intro own
      obtain ⟨found, own⟩ := Option.isSome_iff_exists.mp own
      obtain ⟨current, id, branch⟩ := callOf_eq_some own
      cases current.symm.trans kept.1
      exact settled (linked.owned call context _ present (.of_pending pending handler) id.symm
        branch.symm)
    have same : later.runFinal (.invite context) none now = later := if_neg foreign
    rw [same]
    exact kept
  | .ignore => exact kept

theorem UserAgent.runFinal_idle {agent : UserAgent Host} (gone : agent.current = none)
    (handler : FinalHandler) (now : Time) : (agent.runFinal handler none now).current = none := by
  match handler with
  | .register expires authenticated =>
    have side := (RegisterSide.refl agent).onRegisterFinal none nofun expires authenticated now
    exact side.frame.current.trans gone
  | .invite context =>
    have missing : agent.callOf context = none := by
      unfold callOf
      rw [gone]
      rfl
    show (if (agent.callOf context).isSome then agent.endCall .timeout 408 else agent).current = _
    rw [missing]
    exact gone
  | .ignore => exact gone

theorem UserAgent.runFinal_own {agent : UserAgent Host} (present : agent.current = some call)
    (now : Time) : (agent.runFinal (.invite call.context) none now).current = none := by
  have own : agent.callOf call.context = some call := by
    unfold callOf
    rw [present]
    exact Option.filter_some_pos (by simp [Call.context])
  have does := Does.refl agent
  rw [present] at does
  show (if (agent.callOf call.context).isSome then agent.endCall .timeout 408
    else agent).current = none
  rw [own, Option.isSome_some, if_pos rfl]
  exact (does.endCall .timeout 408).current

/-- A call that is being set up ends with its INVITE. -/
theorem UserAgent.Linked.failed_ended {agent : UserAgent Host} (linked : agent.Linked)
    (present : agent.current = some call) (calling : call.state = .calling) (now : Time) :
    ∃ added, (agent.failed now).log = agent.log ++ added ∧ (agent.failed now).current = none ∧
      added.filterMap Action.ended = [call.id] := by
  obtain ⟨invite, pending, invites, -⟩ := linked.calling call present calling
  have start : Leaves call agent { agent with transactions := OrderedMap.empty } :=
    ⟨[], (append_nil _).symm, Or.inl ⟨present, rfl⟩⟩
  have leaves : Leaves call agent (agent.failed now) :=
    failed_keeps (Leaves call agent) start fun _ transaction _ leaves =>
      leaves.runFinal transaction.onFinal now
  have gone : (agent.failed now).current = none := by
    obtain ⟨early, late, split⟩ := append_of_mem pending
    have before : Leaves call agent (early.foldl
        (fun agent transaction => agent.runFinal transaction.onFinal none now)
        { agent with transactions := OrderedMap.empty }) :=
      loop_keeps (Leaves call agent) early (fun _ transaction _ leaves =>
        leaves.runFinal transaction.onFinal now) start
    obtain ⟨_, _, ends⟩ := before
    unfold failed
    rw [split, foldl_append, foldl_cons, invites]
    refine loop_keeps (fun later : UserAgent Host => later.current = none) late
      (fun _ transaction _ gone => runFinal_idle gone transaction.onFinal now) ?_
    rcases ends with ⟨still, -⟩ | ⟨ended, -⟩
    · exact runFinal_own still now
    · exact runFinal_idle ended _ now
  obtain ⟨added, log, ends⟩ := leaves
  rcases ends with ⟨still, -⟩ | ⟨-, ended⟩
  · exact nomatch gone.symm.trans still
  · exact ⟨added, log, gone, ended⟩

/-! ### The registration -/

/-- A handler without a response keeps the flag, unless it is of a REGISTER that is wanted. -/
theorem UserAgent.runFinal_none_registered (transaction : Transaction) (now : Time) :
    (agent.runFinal transaction.onFinal none now).registration.wanted =
        agent.registration.wanted ∧
      ((agent.runFinal transaction.onFinal none now).registration.registered = true ↔
        agent.registration.registered = true ∧
          (agent.registration.wanted = true → ¬ transaction.Registers)) := by
  have other (call : transaction.onFinal.isRegister = false) : ¬ transaction.Registers :=
    fun registers => nomatch call.symm.trans registers.isRegister
  match handler : transaction.onFinal with
  | .register expires authenticated =>
    have registers : transaction.Registers ↔ expires ≠ 0 := by
      unfold Transaction.Registers
      simp [handler]
    have ends : agent.runFinal (.register expires authenticated) none now =
        if expires = 0 ∨ agent.registration.wanted = false then agent.landed
        else agent.landed.concludeRegister none expires now :=
      agent.onRegisterFinal_none expires authenticated now
    rw [ends, registers]
    split
    next quiet =>
      refine ⟨rfl, fun registered => ⟨registered, fun wanted nonzero => ?_⟩, And.left⟩
      rw [wanted] at quiet
      exact quiet.elim nonzero nofun
    next reports =>
      rw [not_or, Bool.not_eq_false] at reports
      exact ⟨rfl, nofun, fun holds => absurd reports.1 (holds.2 reports.2)⟩
  | .invite context =>
    have same := (LeavesRegistration.onInviteFinal agent context now).registration
    have kept : (agent.runFinal (.invite context) none now).registration = agent.registration :=
      same
    rw [kept]
    exact ⟨rfl, fun registered => ⟨registered, fun _ => other (by rw [handler]; rfl)⟩, And.left⟩
  | .ignore =>
    exact ⟨rfl, fun registered => ⟨registered, fun _ => other (by rw [handler]; rfl)⟩, And.left⟩

theorem UserAgent.foldl_registered_iff (values : List Transaction) (agent : UserAgent Host)
    (now : Time) :
    (values.foldl (fun agent transaction => agent.runFinal transaction.onFinal none now)
        agent).registration.registered = true ↔
      agent.registration.registered = true ∧
        (agent.registration.wanted = true → ∀ transaction ∈ values, ¬ transaction.Registers) := by
  induction values generalizing agent with
  | nil => simp
  | cons transaction values hypothesis =>
    obtain ⟨wanted, registered⟩ := agent.runFinal_none_registered transaction now
    rw [foldl_cons, hypothesis, wanted, registered, and_assoc, ← imp_and,
      forall_mem_cons]

theorem UserAgent.failed_registered_iff {agent : UserAgent Host} (asked : agent.registration.Asked)
    (now : Time) :
    (agent.failed now).registration.registered = true ↔
      agent.registration.registered = true ∧ ¬ agent.AwaitsRegister := by
  unfold failed AwaitsRegister
  rw [foldl_registered_iff]
  refine and_congr_right fun registered => ?_
  simp [asked registered, Transaction.registers_packet_iff]

/-- What the handlers report are timeouts. -/
theorem UserAgent.failed_statuses :
    Grows (fun action => ∀ status, action.registrationStatus = some status → status = 408)
      agent.log (agent.failed now).log := by
  refine failed_keeps (fun later => Grows _ agent.log later.log) (.refl _)
    fun later transaction _ grows => grows.trans ?_
  match transaction.onFinal with
  | .register expires authenticated =>
    show Grows _ later.log (later.onRegisterFinal none expires authenticated now).log
    rw [onRegisterFinal_none]
    split
    · exact .refl _
    · exact .single _ fun status reported => (Option.some.inj reported).symm
  | .invite context =>
    refine (LeavesRegistration.onInviteFinal later context now).log.mono ?_
    intro action foreign status reported
    cases action with
    | emit event => exact absurd ((if_neg foreign).symm.trans reported) nofun
    | _ => cases reported
  | .ignore => exact .refl _

/-! ### Every run -/

/-- What the loss itself reports. -/
def UserAgent.lossReport (agent : UserAgent Host) : List Action :=
  if agent.registration.registered then [.emit { kind := .registration, status := 503 }] else []

theorem UserAgent.transportDown_asked {now : Time} {added : List Action}
    (log : (agent.failed now).log = agent.log ++ added) :
    agent.asked (.transportDown now) = added ++ (agent.failed now).lossReport := by
  refine asked_of_log ?_
  unfold lossReport
  rw [transportDown_eq, ← append_assoc, ← log]
  split
  · rfl
  · exact (append_nil _).symm

omit [UserAgentHost Host] in
theorem UserAgent.closeMedia_notMem_lossReport : .closeMedia ∉ agent.lossReport := by
  unfold lossReport
  split <;> simp

omit [UserAgentHost Host] in
theorem UserAgent.lossReport_ended : agent.lossReport.filterMap Action.ended = [] := by
  unfold lossReport
  split <;> rfl

theorem UserAgent.transportDown_frame :
    (agent.step (.transportDown now)).transactions = (agent.failed now).transactions ∧
      (agent.step (.transportDown now)).current = (agent.failed now).current ∧
      (agent.step (.transportDown now)).registration.registered = false := by
  rw [transportDown_eq]
  split
  · exact ⟨rfl, rfl, rfl⟩
  next cleared => exact ⟨rfl, rfl, Bool.eq_false_iff.mpr cleared⟩

theorem UserAgent.mem_statuses_transportDown :
    503 ∈ statuses (agent.asked (.transportDown now)) ↔
      (agent.failed now).registration.registered = true := by
  obtain ⟨added, log, timeouts⟩ := agent.failed_statuses now
  have unreported : 503 ∉ statuses added := by
    intro reported
    obtain ⟨action, member, status⟩ := mem_filterMap.mp reported
    exact absurd (timeouts action member 503 status) (by decide)
  rw [agent.transportDown_asked log, statuses_append, mem_append, or_iff_right unreported]
  unfold lossReport
  split
  next stands => exact iff_of_true (mem_singleton_self _) stands
  next cleared => exact iff_of_false not_mem_nil cleared

/-- In every state of a run the loss of the connection has its documented effect exactly when the
agent is not registered or has no refresh in flight. -/
theorem lost_iff (config : UserAgentConfig) (host : Host) (random : Random) (ops : List Op)
    (now : Time) :
    Lost (run Traced.step (Traced.create config host random) ops) now ↔
      ¬ ((run UserAgent.step (UserAgent.create config host random) ops).registration.registered =
          true ∧
        (run UserAgent.step (UserAgent.create config host random) ops).AwaitsRegister) := by
  have linked := linked_run config host random ops
  have asked := asked_run config host random ops
  have same := Traced.run_agent (Traced.create config host random) ops
  rw [show (Traced.create config host random).agent = UserAgent.create config host random from rfl]
    at same
  rw [← same] at linked asked ⊢
  generalize run Traced.step (Traced.create config host random) ops = state at linked asked ⊢
  obtain ⟨transactions, current, registered⟩ := state.agent.transportDown_frame now
  have stands := (state.agent.mem_statuses_transportDown now).trans
    (failed_registered_iff asked now)
  constructor
  · rintro lost ⟨registered, refreshes⟩
    exact (stands.mp (lost.reported registered)).2 refreshes
  · intro quiet
    refine ⟨?_, ?_, fun call present settled => ?_, fun call present calling => ?_, ?_,
      fun registered => stands.mpr ⟨registered, fun refreshes => quiet ⟨registered, refreshes⟩⟩⟩
    · rw [state.step_agent, transactions, state.agent.failed_transactions now]
    · exact handled_transportDown state now
    · obtain ⟨kept, added, log, others⟩ := linked.failed_kept present settled now
      rw [state.step_agent, current, state.agent.transportDown_asked log]
      refine ⟨kept, fun closes => ?_⟩
      rcases mem_append.mp closes with early | late
      · exact others _ early rfl
      · exact closeMedia_notMem_lossReport _ late
    · obtain ⟨added, log, gone, ended⟩ := linked.failed_ended present calling now
      rw [state.step_agent, current, state.agent.transportDown_asked log, filterMap_append,
        ended, lossReport_ended]
      exact ⟨gone, rfl⟩
    · rw [state.step_agent, registered]

/-- An agent on a TLS connection was registered, and its refresh is in flight. -/
def refreshing : Traced IdealHost :=
  run Traced.step
    (Traced.create { UserAgent.ideal.config with transport := ascii "TLS" } {} Random.counting)
    [.startRegistration 0, .message firstAccepted 1, .timer (seconds 151)]

/-- The registration was in place, and its loss shows as a timeout alone. -/
theorem refreshing_not_lost :
    refreshing.agent.registration.registered = true ∧
      statuses (refreshing.agent.asked (.transportDown (seconds 152))) = [408] ∧
      ¬ Lost refreshing (seconds 152) := by
  have registered : refreshing.agent.registration.registered = true := by decide +kernel
  have told : statuses (refreshing.agent.asked (.transportDown (seconds 152))) = [408] := by
    decide +kernel
  refine ⟨registered, told, fun lost => ?_⟩
  have reported := lost.reported registered
  rw [told] at reported
  exact absurd reported (by decide)

end KetPhone.Core
