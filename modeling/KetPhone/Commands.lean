/-
This file models how `core/engine.cpp` lets every thread use the user agent, which
knows of no threads: `run` queues a command for the network thread and waits for its
result, `run_commands` takes the queue and runs it, and when the loop ends what is left
is refused. What the application does in its event callback runs at once, as part of
what the network thread does of its own. `stop` is queued once, by the destructor,
which waits for the thread and not for a result; its command shuts the agent down even
where it is refused.
-/

import KetPhone.WorkQueue
import KetPhone.UserAgent.Dispatch

namespace KetPhone.Core

open List WorkEvent

def kShutdownGrace : Time := seconds 2

/-- What is queued for the network thread. -/
inductive Command where
  | registerAccount
  | unregisterAccount
  | call (id : Int32) (target : Bytes)
  | answer (id : Int32)
  | reject (id : Int32) (status : Int)
  | hangup (id : Int32)
  | stop

def Command.op (now : Time) : Command → Op
  | .registerAccount => .startRegistration now
  | .unregisterAccount => .stopRegistration now
  | .call id target => .call id target now
  | .answer id => .answer id now
  | .reject id status => .reject id status
  | .hangup id => .hangup id now
  | .stop => .shutdown now

variable {Host : Type} [UserAgentHost Host]

def UserAgent.perform (command : Command) (now : Time) (agent : UserAgent Host) :
    CommandResult × UserAgent Host :=
  match command with
  | .registerAccount => (.ok, agent.startRegistration now)
  | .unregisterAccount => (.ok, agent.stopRegistration now)
  | .call id target => agent.call id target now
  | .answer id => agent.answer id now
  | .reject id status => agent.reject id status
  | .hangup id => agent.hangup id now
  | .stop => (.ok, agent.shutdown now)

theorem UserAgent.perform_snd (command : Command) (now : Time) (agent : UserAgent Host) :
    (agent.perform command now).2 = agent.step (command.op now) := by
  cases command <;> rfl

structure NetworkThread (Host : Type) where
  agent : UserAgent Host
  stopping : Bool := false
  stopDeadline : Time := 0

def NetworkThread.perform (command : Command) (now : Time) (thread : NetworkThread Host) :
    CommandResult × NetworkThread Host :=
  let (result, agent) := thread.agent.perform command now
  match command with
  | .stop => (result, { agent, stopping := true, stopDeadline := now + kShutdownGrace })
  | _ => (result, { thread with agent })

/-- The loop ends when the agent is idle or has had its time. -/
abbrev networkThread (Host : Type) [UserAgentHost Host] : Service where
  Server := NetworkThread Host
  Work := Command
  Own := Op
  Moment := Time
  Answer := CommandResult
  perform := NetworkThread.perform
  own op thread := { thread with agent := thread.agent.step op }
  refusal := .state
  abandon command now thread :=
    match command with
    | .stop => (thread.perform .stop now).2
    | _ => thread
  ends now thread :=
    thread.stopping && (thread.agent.transactions.values.isEmpty || thread.stopDeadline ≤ now)

/-- What the agent sees of an event. -/
def operation : WorkEvent (networkThread Host) → Option Op
  | .done _ command now _ => some (command.op now)
  | .own op => some op
  | .refused _ .stop now => some (.shutdown now)
  | _ => none

/-- When an event stops the thread. -/
def stopAt : WorkEvent (networkThread Host) → Option Time
  | .done _ .stop now _ => some now
  | .refused _ .stop now => some now
  | _ => none

theorem NetworkThread.perform_agent (command : Command) (now : Time) (thread : NetworkThread Host) :
    (thread.perform command now).1 = (thread.agent.perform command now).1 ∧
      (thread.perform command now).2.agent = thread.agent.step (command.op now) := by
  rw [← UserAgent.perform_snd]
  cases command <;> exact ⟨rfl, rfl⟩

theorem run_replay_agent (thread : NetworkThread Host)
    (history : List (WorkEvent (networkThread Host))) :
    NetworkThread.agent (run (@replay (networkThread Host)) thread history) =
      run UserAgent.step thread.agent (history.filterMap operation) := by
  induction history generalizing thread with
  | nil => rfl
  | cons event history hypothesis =>
    rw [run_cons, hypothesis]
    cases event with
    | done ticket command now result =>
      exact congrArg (run UserAgent.step · _) (thread.perform_agent command now).2
    | refused ticket command now => cases command <;> rfl
    | _ => rfl

theorem replay_stops (thread : NetworkThread Host) (event : WorkEvent (networkThread Host)) :
    let after : NetworkThread Host := replay thread event
    match stopAt event with
    | some now => after.stopDeadline = now + kShutdownGrace
    | none => after.stopping = thread.stopping ∧ after.stopDeadline = thread.stopDeadline := by
  cases event with
  | done ticket command now result => cases command <;> simp [stopAt, replay, NetworkThread.perform]
  | refused ticket command now => cases command <;> simp [stopAt, replay, NetworkThread.perform]
  | _ => exact ⟨rfl, rfl⟩

/-- A thread that is stopping was told to. -/
theorem stopped_of_stopping (agent : UserAgent Host)
    (history : List (WorkEvent (networkThread Host))) :
    let thread : NetworkThread Host := run (@replay (networkThread Host)) { agent } history
    thread.stopping = true →
      ∃ began ∈ history.filterMap stopAt, thread.stopDeadline = began + kShutdownGrace := by
  induction history using reverseRecOn with
  | nil => exact nofun
  | append_singleton history event hypothesis =>
    rw [run_append, run_cons, run_nil, filterMap_append]
    intro thread stopping
    have stops := replay_stops (run (@replay (networkThread Host)) { agent } history) event
    cases found : stopAt event with
    | some now =>
      rw [found] at stops
      exact ⟨now, mem_append_right _ (by simp [found]), stops⟩
    | none =>
      rw [found] at stops
      obtain ⟨began, member, deadline⟩ := hypothesis (stops.1.symm.trans stopping)
      exact ⟨began, mem_append_left _ member, stops.2.trans deadline⟩

section

variable (config : UserAgentConfig) (host : Host) (random : Random)

/-- The queue and the network thread after the turns of all threads. -/
def turned (turns : List (WorkTurn (networkThread Host))) : WorkQueue (networkThread Host) :=
  run WorkQueue.step { server := { agent := UserAgent.create config host random } } turns

theorem turned_orderly (turns : List (WorkTurn (networkThread Host))) :
    @WorkQueue.Orderly (networkThread Host) { agent := UserAgent.create config host random }
      (turned config host random turns) :=
  WorkQueue.Orderly.run _ turns

/-- An agent that only one thread uses, after what a history says. -/
def sequential (history : List (WorkEvent (networkThread Host))) : UserAgent Host :=
  run UserAgent.step (UserAgent.create config host random) (history.filterMap operation)

/-- What an event is to the sequential agent at its place. A command is run after it was queued and
returns what the agent returns. The thread ends once a `stop` was run and the agent is idle or has
had its time; what it took before is done then, and only what it did not take is refused. -/
def Linear (past : List (WorkEvent (networkThread Host))) : WorkEvent (networkThread Host) → Prop
  | .done ticket command now result =>
    ended past = false ∧ .left ticket command ∈ past ∧
      result = ((sequential config host random past).perform command now).1
  | .took => ended past = false ∧ TakenDone past
  | .closed now =>
    ended past = false ∧ TakenDone past ∧
      ∃ ticket began result, .done ticket .stop began result ∈ past ∧
        ((sequential config host random past).transactions.values = [] ∨
          began + kShutdownGrace ≤ now)
  | .refused ticket command _ => ended past = true ∧ (ticket, command) ∈ untaken past
  | .turnedAway _ _ => ended past = true
  | .left _ _ => ended past = false
  | .own _ => ended past = false

theorem linear_of_faithful {past : List (WorkEvent (networkThread Host))}
    {event : WorkEvent (networkThread Host)}
    (before : Each (@WorkQueue.Faithful (networkThread Host)
      { agent := UserAgent.create config host random }) past)
    (faithful : @WorkQueue.Faithful (networkThread Host)
      { agent := UserAgent.create config host random } past event) :
    Linear config host random past event := by
  cases event with
  | done ticket command now result =>
    obtain ⟨opened, left, answered⟩ := faithful
    refine ⟨opened, left, answered.trans ((NetworkThread.perform_agent command now _).1.trans ?_)⟩
    rw [run_replay_agent]
    rfl
  | closed now =>
    obtain ⟨opened, done, ends⟩ := faithful
    obtain ⟨stopping, late⟩ := Bool.and_eq_true_iff.mp ends
    obtain ⟨began, stop, deadline⟩ := stopped_of_stopping _ past stopping
    obtain ⟨event, member, stops⟩ := mem_filterMap.mp stop
    rw [deadline, run_replay_agent, Bool.or_eq_true, List.isEmpty_iff, decide_eq_true_eq] at late
    match event with
    | .done ticket .stop _ result =>
      cases stops
      exact ⟨opened, done, ticket, began, result, member, late⟩
    | .refused _ _ _ =>
      exact nomatch (WorkQueue.ended_of_refused before member).symm.trans opened
  | _ => exact faithful

/-- Commands of any threads are linearizable. The history has the calls that were made, in their
order, and what the network thread did of its own; every result that a caller got is the one the
history gives it, and the agent is the sequential one after the history. Each event fits the
sequential agent at its place, commands are settled in the order they were queued in, and what is
called later comes later in the history. -/
theorem commands_linearized (turns : List (WorkTurn (networkThread Host))) :
    let state := turned config host random turns
    state.history.filterMap WorkEvent.calls = (turns.filterMap WorkTurn.work).mapIdx Prod.mk ∧
    (state.closed = false → state.history.filterMap owns = turns.filterMap WorkTurn.input) ∧
    state.results = state.history.filterMap gives ∧
    state.server.agent = sequential config host random state.history ∧
    Each (Linear config host random) state.history ∧
    state.history.filterMap leaves = state.history.filterMap settles ++ state.waiting ∧
    ∀ more, state.history <+: (turned config host random (turns ++ more)).history := by
  intro state
  have orderly := turned_orderly config host random turns
  obtain ⟨calls, -, own⟩ := @WorkQueue.run_calls
    (networkThread Host) { agent := UserAgent.create config host random } turns
  refine ⟨calls, own, orderly.results, ?_, ?_, orderly.order, fun more => ?_⟩
  · exact (congrArg NetworkThread.agent orderly.server).trans (run_replay_agent _ _)
  · intro past event future whole
    have faithful := orderly.faithful
    rw [whole] at faithful
    exact linear_of_faithful config host random faithful.before (faithful past event future rfl)
  · rw [turned, run_append]
    exact WorkQueue.history_prefix _ more

/-- Each call of `run` waits or has been answered, once; none waits when the loop has ended, and
until then one pass of the network thread answers all that wait. -/
theorem commands_answered (turns : List (WorkTurn (networkThread Host))) (now : Time) :
    let state := turned config host random turns
    (∀ ticket, (state.history.filterMap WorkEvent.answers).count ticket +
      (state.waiting.map Prod.fst).count ticket = if ticket < state.calls then 1 else 0) ∧
    (state.closed = true → state.taken = [] → state.waiting = []) ∧
    (run WorkQueue.step state (state.pass now)).waiting = [] := by
  intro state
  have orderly := turned_orderly config host random turns
  refine ⟨orderly.once, fun closed idle => ?_, orderly.run_pass now⟩
  exact append_eq_nil_iff.mpr ⟨idle, orderly.empty closed⟩

end

end KetPhone.Core
