/-
This file develops a queue of work that many threads fill and one worker empties.
A caller leaves its work under a ticket and waits for the answer. The worker swaps
the whole queue out, does what it took one by one and answers each caller, with
work of its own in between; when it ends it closes the queue and refuses what is
left. A lock makes each turn atomic, and the turns of the threads come in any order.

In every order the work is done one by one, first come first served, on a server
that never sees more than one thread, and each call waits or has been answered once.
Nothing is refused before the worker has ended, and then only what it had not taken.
-/

import KetPhone.Run

namespace KetPhone

open List

structure Service where
  Server : Type
  Work : Type
  Own : Type
  Moment : Type
  Answer : Type
  perform : Work → Moment → Server → Answer × Server
  own : Own → Server → Server
  /-- The answer to work that is refused. -/
  refusal : Answer
  /-- What work does although it is refused. -/
  abandon : Work → Moment → Server → Server
  /-- Whether the worker may end. -/
  ends : Moment → Server → Bool

variable {service : Service}

/-- What became of the calls, and what the worker did of its own. -/
inductive WorkEvent (service : Service) where
  | left (ticket : Nat) (work : service.Work)
  /-- The queue was closed already. -/
  | turnedAway (ticket : Nat) (work : service.Work)
  /-- The worker took the whole queue. -/
  | took
  | done (ticket : Nat) (work : service.Work) (moment : service.Moment) (answer : service.Answer)
  | own (input : service.Own)
  /-- The worker closed the queue and took what was in it. -/
  | closed (moment : service.Moment)
  | refused (ticket : Nat) (work : service.Work) (moment : service.Moment)

namespace WorkEvent

def calls : WorkEvent service → Option (Nat × service.Work)
  | .left ticket work => some (ticket, work)
  | .turnedAway ticket work => some (ticket, work)
  | _ => none

def leaves : WorkEvent service → Option (Nat × service.Work)
  | .left ticket work => some (ticket, work)
  | _ => none

def settles : WorkEvent service → Option (Nat × service.Work)
  | .done ticket work _ _ => some (ticket, work)
  | .refused ticket work _ => some (ticket, work)
  | _ => none

def answers : WorkEvent service → Option Nat
  | .turnedAway ticket _ => some ticket
  | .done ticket _ _ _ => some ticket
  | .refused ticket _ _ => some ticket
  | _ => none

/-- The answer that a caller gets. -/
def gives : WorkEvent service → Option (Nat × service.Answer)
  | .turnedAway ticket _ => some (ticket, service.refusal)
  | .done ticket _ _ answer => some (ticket, answer)
  | .refused ticket _ _ => some (ticket, service.refusal)
  | _ => none

def owns : WorkEvent service → Option service.Own
  | .own input => some input
  | _ => none

def ends : WorkEvent service → Bool
  | .closed _ => true
  | _ => false

def replay (server : service.Server) : WorkEvent service → service.Server
  | .done _ work moment _ => (service.perform work moment server).2
  | .own input => service.own input server
  | .refused _ work moment => service.abandon work moment server
  | _ => server

end WorkEvent

open WorkEvent

/-- Whether the worker has closed the queue. -/
def ended (history : List (WorkEvent service)) : Bool := history.any ends

/-- What was left since the worker last took the queue. -/
def untaken (history : List (WorkEvent service)) : List (Nat × service.Work) :=
  history.foldl (fun waiting event =>
    match event with
    | .took => []
    | event => waiting ++ (leaves event).toList) []

/-- What the worker has taken is done. -/
def TakenDone (history : List (WorkEvent service)) : Prop :=
  ∀ ticket work, .left ticket work ∈ history →
    (ticket, work) ∈ untaken history ∨
      ∃ moment answer, .done ticket work moment answer ∈ history

theorem ended_concat (history : List (WorkEvent service)) (event : WorkEvent service) :
    ended (history ++ [event]) = (ended history || ends event) := by
  simp [ended]

theorem untaken_concat (history : List (WorkEvent service)) (event : WorkEvent service) :
    untaken (history ++ [event]) = match event with
      | .took => []
      | event => untaken history ++ (leaves event).toList := by
  unfold untaken
  rw [foldl_append]
  rfl

structure WorkQueue (service : Service) where
  server : service.Server
  queue : List (Nat × service.Work) := []
  /-- What the worker has swapped out and not answered yet. -/
  taken : List (Nat × service.Work) := []
  closed : Bool := false
  calls : Nat := 0
  /-- What the callers were told. -/
  results : List (Nat × service.Answer) := []
  history : List (WorkEvent service) := []

inductive WorkTurn (service : Service) where
  | leave (work : service.Work)
  | swap
  | next (moment : service.Moment)
  | own (input : service.Own)
  | close (moment : service.Moment)

namespace WorkTurn

def work : WorkTurn service → Option service.Work
  | .leave work => some work
  | _ => none

def input : WorkTurn service → Option service.Own
  | .own input => some input
  | _ => none

end WorkTurn

namespace WorkQueue

def waiting (state : WorkQueue service) : List (Nat × service.Work) := state.taken ++ state.queue

def step (state : WorkQueue service) : WorkTurn service → WorkQueue service
  | .leave work =>
    if state.closed then
      { state with
        calls := state.calls + 1
        results := state.results ++ [(state.calls, service.refusal)]
        history := state.history ++ [.turnedAway state.calls work] }
    else
      { state with
        calls := state.calls + 1
        queue := state.queue ++ [(state.calls, work)]
        history := state.history ++ [.left state.calls work] }
  | .swap =>
    if state.taken.isEmpty && !state.closed then
      { state with taken := state.queue, queue := [], history := state.history ++ [.took] }
    else state
  | .next moment =>
    match state.taken with
    | [] => state
    | (ticket, work) :: rest =>
      if state.closed then
        { state with
          server := service.abandon work moment state.server
          taken := rest
          results := state.results ++ [(ticket, service.refusal)]
          history := state.history ++ [.refused ticket work moment] }
      else
        let (answer, server) := service.perform work moment state.server
        { state with
          server
          taken := rest
          results := state.results ++ [(ticket, answer)]
          history := state.history ++ [.done ticket work moment answer] }
  | .own input =>
    if state.closed then state
    else
      { state with
        server := service.own input state.server
        history := state.history ++ [.own input] }
  | .close moment =>
    if state.taken.isEmpty && !state.closed && service.ends moment state.server then
      { state with
        closed := true
        taken := state.queue
        queue := []
        history := state.history ++ [.closed moment] }
    else state

/-- What an event keeps to. Work is done after it was left, and its answer is that of the server at
this place. The worker takes the queue, and ends, when what it took before is done; and only work
that it had not taken when it ended is refused. -/
def Faithful (start : service.Server) (past : List (WorkEvent service)) :
    WorkEvent service → Prop
  | .done ticket work moment answer =>
    ended past = false ∧ .left ticket work ∈ past ∧
      answer = (service.perform work moment (run replay start past)).1
  | .took => ended past = false ∧ TakenDone past
  | .closed moment =>
    ended past = false ∧ TakenDone past ∧ service.ends moment (run replay start past) = true
  | .refused ticket work _ => ended past = true ∧ (ticket, work) ∈ untaken past
  | .turnedAway _ _ => ended past = true
  | .left _ _ => ended past = false
  | .own _ => ended past = false

structure Orderly (start : service.Server) (state : WorkQueue service) : Prop where
  server : state.server = run replay start state.history
  results : state.results = state.history.filterMap gives
  faithful : Each (Faithful start) state.history
  order : state.history.filterMap leaves = state.history.filterMap settles ++ state.waiting
  ended : ended state.history = state.closed
  opened : state.closed = false → untaken state.history = state.queue
  shut : state.closed = true → state.queue = [] ∧ state.taken <:+ untaken state.history
  once : ∀ ticket, (state.history.filterMap answers).count ticket +
    (state.waiting.map Prod.fst).count ticket = if ticket < state.calls then 1 else 0

variable {start : service.Server} {state : WorkQueue service}

theorem Orderly.create (server : service.Server) : Orderly server { server } :=
  ⟨rfl, rfl, Each.of_forall fun _ member => absurd member not_mem_nil, rfl, rfl, fun _ => rfl,
    nofun, fun _ => rfl⟩

theorem Orderly.empty (orderly : Orderly start state) (closed : state.closed = true) :
    state.queue = [] :=
  (orderly.shut closed).1

/-- A refusal comes after the end. -/
theorem ended_of_refused {history : List (WorkEvent service)}
    (faithful : Each (Faithful start) history) {ticket : Nat} {work : service.Work}
    {moment : service.Moment} (refused : .refused ticket work moment ∈ history) :
    ended history = true := by
  obtain ⟨past, future, rfl⟩ := append_of_mem refused
  have early := (faithful past _ future rfl).1
  rw [ended, any_append]
  exact Bool.or_eq_true_iff.mpr (Or.inl early)

/-- What is not in the queue any more was done, while the worker has nothing left. -/
theorem Orderly.takenDone (orderly : Orderly start state) (idle : state.taken = [])
    (opened : state.closed = false) : TakenDone state.history := by
  intro ticket work left
  have settled : (ticket, work) ∈ state.history.filterMap leaves :=
    mem_filterMap.mpr ⟨_, left, rfl⟩
  rw [orderly.order, waiting, idle, nil_append, ← orderly.opened opened, mem_append] at settled
  refine settled.symm.imp_right fun settled => ?_
  obtain ⟨event, member, settles⟩ := mem_filterMap.mp settled
  match event with
  | .done _ _ moment answer =>
    cases settles
    exact ⟨moment, answer, member⟩
  | .refused _ _ _ =>
    exact nomatch (ended_of_refused orderly.faithful member).symm.trans (orderly.ended.trans opened)

/-- One event more: who waits changes by who left work and who was settled. -/
theorem Orderly.record (orderly : Orderly start state) {after : WorkQueue service}
    (event : WorkEvent service) (server : after.server = replay state.server event)
    (results : after.results = state.results ++ (gives event).toList)
    (history : after.history = state.history ++ [event])
    (faithful : Faithful start state.history event)
    (closed : after.closed = (state.closed || ends event))
    (opened : after.closed = false → untaken after.history = after.queue)
    (shut : after.closed = true → after.queue = [] ∧ after.taken <:+ untaken after.history)
    (order : state.waiting ++ (leaves event).toList = (settles event).toList ++ after.waiting)
    (once : ∀ ticket, (answers event).toList.count ticket +
      (after.waiting.map Prod.fst).count ticket + (if ticket < state.calls then 1 else 0) =
        (state.waiting.map Prod.fst).count ticket + if ticket < after.calls then 1 else 0) :
    Orderly start after := by
  have one {Read : Type} (read : WorkEvent service → Option Read) :
      after.history.filterMap read = state.history.filterMap read ++ (read event).toList := by
    rw [history, filterMap_append]
    cases found : read event <;> simp [found]
  refine ⟨?_, ?_, ?_, ?_, ?_, opened, shut, fun ticket => ?_⟩
  · rw [server, orderly.server, history, run_append]
    rfl
  · rw [results, one, orderly.results]
  · rw [history]
    exact orderly.faithful.concat faithful
  · rw [one, one, orderly.order, append_assoc, order, append_assoc]
  · rw [history, ended_concat, orderly.ended, closed]
  · have before := orderly.once ticket
    have change := once ticket
    rw [one, count_append]
    omega

theorem Orderly.step (orderly : Orderly start state) (turn : WorkTurn service) :
    Orderly start (state.step turn) := by
  have going : state.closed = (state.closed || false) := (Bool.or_false _).symm
  have apart (opened : ¬state.closed = true) : KetPhone.ended state.history = false :=
    orderly.ended.trans (Bool.eq_false_iff.mpr opened)
  cases turn with
  | leave work =>
    rw [WorkQueue.step]
    split
    next shut =>
      refine orderly.record (.turnedAway ..) rfl rfl rfl (orderly.ended.trans shut) going
        (fun opened => nomatch shut.symm.trans opened) (fun _ => ?_) (append_nil _) ?_
      · simpa [untaken_concat, leaves] using orderly.shut shut
      · grind [answers, waiting]
    next opened =>
      refine orderly.record (.left ..) rfl (append_nil _).symm rfl (apart opened) going
        (fun opened => ?_) (absurd · opened) (append_assoc ..) ?_
      · simp [untaken_concat, leaves, orderly.opened opened]
      · grind [answers, waiting]
  | swap =>
    rw [WorkQueue.step]
    split
    next idle =>
      rw [Bool.and_eq_true, List.isEmpty_iff, Bool.not_eq_true'] at idle
      refine orderly.record .took rfl (append_nil _).symm rfl
        ⟨orderly.ended.trans idle.2, orderly.takenDone idle.1 idle.2⟩ going
        (fun _ => ?_) (fun shut => nomatch idle.2.symm.trans shut) ?_ ?_
      · simp [untaken_concat]
      · simp [waiting, idle.1, leaves, settles]
      · grind [answers, waiting]
    · exact orderly
  | next moment =>
    rw [WorkQueue.step]
    split
    · exact orderly
    next ticket work rest taken =>
      have ahead : state.waiting ++ [] = (ticket, work) :: (rest ++ state.queue) := by
        rw [append_nil, waiting, taken, cons_append]
      split
      next shut =>
        obtain ⟨empty, within⟩ := orderly.shut shut
        rw [taken] at within
        refine orderly.record (.refused ..) rfl rfl rfl
          ⟨orderly.ended.trans shut, within.subset mem_cons_self⟩ going
          (fun opened => nomatch shut.symm.trans opened) (fun _ => ⟨empty, ?_⟩) ahead ?_
        · simpa [untaken_concat, leaves] using (suffix_cons _ _).trans within
        · grind [answers, waiting]
      next opened =>
        have left : (ticket, work) ∈ state.history.filterMap leaves := by
          simp [orderly.order, waiting, taken]
        obtain ⟨event, member, leaving⟩ := mem_filterMap.mp left
        refine orderly.record (.done ..) rfl rfl rfl ⟨apart opened, ?_, ?_⟩ going
          (fun opened => ?_) (absurd · opened) ahead ?_
        · cases event <;> cases leaving
          exact member
        · rw [← orderly.server]
        · simp [untaken_concat, leaves, orderly.opened opened]
        · grind [answers, waiting]
  | own input =>
    rw [WorkQueue.step]
    split
    · exact orderly
    next opened =>
      refine orderly.record (.own _) rfl (append_nil _).symm rfl (apart opened) going
        (fun opened => ?_) (absurd · opened) (append_nil _) ?_
      · simp [untaken_concat, leaves, orderly.opened opened]
      · grind [answers, waiting]
  | close moment =>
    rw [WorkQueue.step]
    split
    next due =>
      rw [Bool.and_eq_true, Bool.and_eq_true, List.isEmpty_iff, Bool.not_eq_true'] at due
      obtain ⟨⟨idle, opened⟩, ends⟩ := due
      refine orderly.record (.closed _) rfl (append_nil _).symm rfl
        ⟨orderly.ended.trans opened, orderly.takenDone idle opened, orderly.server ▸ ends⟩
        (Bool.or_true _).symm nofun (fun _ => ⟨rfl, ?_⟩) ?_ ?_
      · simp [untaken_concat, leaves, orderly.opened opened]
      · simp [waiting, idle, leaves, settles]
      · grind [answers, waiting]
    · exact orderly

theorem Orderly.run (server : service.Server) (turns : List (WorkTurn service)) :
    Orderly server (run WorkQueue.step { server } turns) :=
  loop_keeps (Orderly server) turns (fun _ turn _ orderly => orderly.step turn) (.create server)

/-- The history only grows. -/
theorem history_prefix (state : WorkQueue service) (turns : List (WorkTurn service)) :
    state.history <+: (run WorkQueue.step state turns).history := by
  refine run_relates (fun before after => before.history <+: after.history)
    (fun _ => prefix_refl _) IsPrefix.trans (fun state turn => ?_) state turns
  unfold step
  split <;> (repeat' split) <;> first | exact prefix_append _ _ | exact prefix_refl _

/-- What one turn adds to the calls and, until the end, to the worker's own work. -/
theorem step_calls (state : WorkQueue service) (turn : WorkTurn service) :
    (state.step turn).history.filterMap WorkEvent.calls = state.history.filterMap WorkEvent.calls ++
        (turn.work.map fun work => (state.calls, work)).toList ∧
      (state.step turn).calls = state.calls + turn.work.toList.length ∧
      ((state.step turn).closed = false → state.closed = false ∧
        (state.step turn).history.filterMap owns =
          state.history.filterMap owns ++ turn.input.toList) := by
  unfold step
  split <;> (repeat' split) <;> simp_all [WorkEvent.calls, owns, WorkTurn.work, WorkTurn.input]

/-- The calls are those that were made, numbered, and the worker's own work is all it was given
until it ended. -/
theorem run_calls (server : service.Server) (turns : List (WorkTurn service)) :
    let state := run WorkQueue.step { server } turns
    state.history.filterMap WorkEvent.calls = (turns.filterMap WorkTurn.work).mapIdx Prod.mk ∧
      state.calls = (turns.filterMap WorkTurn.work).length ∧
      (state.closed = false → state.history.filterMap owns = turns.filterMap WorkTurn.input) := by
  induction turns using reverseRecOn with
  | nil => exact ⟨rfl, rfl, fun _ => rfl⟩
  | append_singleton turns turn hypothesis =>
    obtain ⟨calls, count, own⟩ := hypothesis
    obtain ⟨more, counted, further⟩ :=
      step_calls (KetPhone.run WorkQueue.step { server } turns) turn
    dsimp only
    rw [run_append, run_cons, run_nil, filterMap_append, filterMap_append, more, counted, calls,
      count]
    refine ⟨?_, ?_, fun opened => ?_⟩
    · cases found : turn.work <;> simp [found, mapIdx_concat]
    · cases found : turn.work <;> simp [found]
    · obtain ⟨before, same⟩ := further opened
      rw [same, own before]
      cases found : turn.input <;> simp [found]

/-- The worker gets through what it has taken. -/
theorem run_next (state : WorkQueue service) (moment : service.Moment) :
    let after := run WorkQueue.step state (state.taken.map fun _ => .next moment)
    after.taken = [] ∧ after.queue = state.queue ∧ after.closed = state.closed := by
  obtain ⟨server, queue, taken, closed, calls, results, history⟩ := state
  induction taken generalizing server results history with
  | nil => exact ⟨rfl, rfl, rfl⟩
  | cons first rest hypothesis =>
    cases closed with
    | true => exact hypothesis (service.abandon first.2 moment server) _ _
    | false => exact hypothesis (service.perform first.2 moment server).2 _ _

/-- What the worker has taken and then what it finds in the queue. -/
def pass (moment : service.Moment) (state : WorkQueue service) : List (WorkTurn service) :=
  (state.taken.map fun _ => .next moment) ++ .swap :: state.queue.map fun _ => .next moment

theorem Orderly.run_pass (orderly : Orderly start state) (moment : service.Moment) :
    (KetPhone.run WorkQueue.step state (state.pass moment)).waiting = [] := by
  obtain ⟨taken, queue, closed⟩ := state.run_next moment
  rw [pass, run_append, run_cons]
  generalize KetPhone.run WorkQueue.step state _ = middle at taken queue closed
  cases shut : middle.closed with
  | true =>
    have empty : state.queue = [] := orderly.empty (closed.symm.trans shut)
    simp [WorkQueue.step, waiting, taken, queue, shut, empty]
  | false =>
    have swapped : middle.step .swap =
        { middle with
          taken := state.queue
          queue := []
          history := middle.history ++ [.took] } := by
      simp [WorkQueue.step, taken, queue, shut]
    rw [swapped]
    obtain ⟨taken, queue, -⟩ := run_next
      { middle with
        taken := state.queue
        queue := []
        history := middle.history ++ [.took] } moment
    exact append_eq_nil_iff.mpr ⟨taken, queue⟩

end WorkQueue

end KetPhone
