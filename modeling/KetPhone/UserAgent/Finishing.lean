/-
This file proves that every transaction finishes once. A traced agent keeps, beside
its state, what it asked for in order, with a mark wherever a provisional or a final
handler begins to run. The marks tell whether the transaction was still pending then
and with which response its handler ran. The loops that consume the transactions
while handlers start new ones keep the books: what is pending was started and has
not finished, and what has finished was started. Requests are told apart by their
branch and method, and no two that were started are the same.
-/

import KetPhone.UserAgent.Cancelling
import KetPhone.UserAgent.Transacting

namespace KetPhone.Core

open Sip List OrderedMap UserAgent

variable {Host : Type}

/-! ### The traced agent -/

/-- What is noted of a run: what was asked for, once or again, and the handlers that ran. A final
handler is noted with its response, if there is one, and with whether its transaction was pending.
-/
inductive Moment where
  | acts (action : Action)
  | resends (action : Action)
  | proceeds (ticket : Bytes × Bytes)
  | finishes (ticket : Bytes × Bytes) (response : Option Message) (pending : Bool)

structure Traced (Host : Type) where
  agent : UserAgent Host
  trace : List Moment

namespace Traced

def create (config : UserAgentConfig) (host : Host) (random : Random) : Traced Host :=
  { agent := UserAgent.create config host random, trace := [] }

/-- The agent goes on to another state, and what it asked for in between is noted. -/
def moves (after : UserAgent Host) (state : Traced Host) : Traced Host :=
  { agent := after
    trace := state.trace ++ (after.log.drop state.agent.log.length).map .acts }

def notes (moment : Moment) (state : Traced Host) : Traced Host :=
  { state with trace := state.trace ++ [moment] }

variable [UserAgentHost Host]

/-- `runFinal` of a transaction. -/
def finish (response : Option Message) (now : Time) (state : Traced Host)
    (transaction : Transaction) : Traced Host :=
  (state.notes (.finishes transaction.ticket response
    (state.agent.transactions.find transaction.key).isSome)).moves
      (state.agent.runFinal transaction.onFinal response now)

def onTransportDown (now : Time) (state : Traced Host) : Traced Host :=
  let failed := state.agent.transactions.values.foldl (finish none now)
    { state with agent := { state.agent with transactions := OrderedMap.empty } }
  failed.moves
    (if failed.agent.registration.registered then
      { failed.agent with
        registration := { failed.agent.registration with registered := false } }.emit
          { kind := .registration, status := 503 }
    else failed.agent)

def onResponse (response : Message) (now : Time) (state : Traced Host) : Traced Host :=
  match parseCseq (response.headerOr "cseq") with
  | none => state
  | some cseq =>
    let key := transactionKey (branchOf response) cseq.method
    match state.agent.transactions.find key with
    | none => state.moves (state.agent.onResponse response now)
    | some transaction =>
      if response.status < 200 then
        let proceeding := { state.agent with
          transactions := state.agent.transactions.put (transaction.proceed now) }
        match transaction.onProvisional with
        | some id =>
          (notes (.proceeds transaction.ticket) { state with agent := proceeding }).moves
            (proceeding.onInviteProvisional id response now)
        | none => { state with agent := proceeding }
      else
        finish (some response) now
          { state with agent := { state.agent with
              transactions := state.agent.transactions.erase key } } transaction

def onMessage (datagram : Bytes) (now : Time) (state : Traced Host) : Traced Host :=
  match parseMessage datagram with
  | none => state
  | some message =>
    if message.isResponse then state.onResponse message now
    else state.moves (state.agent.onRequest message)

def retransmit (now : Time) (state : Traced Host) : Traced Host :=
  { agent := state.agent.retransmit now
    trace := state.trace ++
      ((state.agent.retransmit now).log.drop state.agent.log.length).map .resends }

def expire (now : Time) (state : Traced Host) (key : Bytes) : Traced Host :=
  match state.agent.transactions.find key with
  | none => state
  | some transaction =>
    finish none now
      { state with agent := { state.agent with
          transactions := state.agent.transactions.erase key } } transaction

def onTimer (now : Time) (state : Traced Host) : Traced Host :=
  let expired := (state.agent.expiredKeys now).foldl (expire now) (state.retransmit now)
  expired.moves ((expired.agent.awaitAck now).refresh now)

def step (state : Traced Host) : Op → Traced Host
  | .transportDown now => state.onTransportDown now
  | .message datagram now => state.onMessage datagram now
  | .timer now => state.onTimer now
  | op => state.moves (state.agent.step op)

end Traced

/-! ### What a trace should be -/

/-- What was asked for, in order. -/
def Moment.asked : Moment → Option Action
  | .acts action => some action
  | .resends action => some action
  | _ => none

def Moment.acted : Moment → Option Action
  | .acts action => some action
  | _ => none

/-- What was asked for, but for requests that were sent again. -/
def acted (trace : List Moment) : List Action := trace.filterMap Moment.acted

/-- The requests that were started. -/
def launched (trace : List Moment) : List (Bytes × Bytes) := tickets (acted trace)

/-- The final handler of a request has run. -/
def Finished (trace : List Moment) (ticket : Bytes × Bytes) : Prop :=
  ∃ response pending, .finishes ticket response pending ∈ trace

/-- Each request is started once. It is sent again and its provisional handler runs only before its
final handler, which runs once, for a request that was started and is not pending any more, with a
final response or with none. -/
def Orderly (past : List Moment) : Moment → Prop
  | .acts action => ∀ ticket, action.ticket = some ticket → ticket ∉ launched past
  | .resends action => .acts action ∈ past ∧
      ∃ ticket, action.ticket = some ticket ∧ ¬ Finished past ticket
  | .proceeds ticket => ticket ∈ launched past ∧ ¬ Finished past ticket
  | .finishes ticket response pending =>
    ticket ∈ launched past ∧ ¬ Finished past ticket ∧ pending = false ∧
      ∀ message, response = some message → 200 ≤ message.status

section Traces

variable {trace more : List Moment} {ticket : Bytes × Bytes}

theorem acted_append : acted (trace ++ more) = acted trace ++ acted more := filterMap_append

theorem launched_append : launched (trace ++ more) = launched trace ++ launched more := by
  unfold launched
  rw [acted_append, tickets_append]

theorem acted_map_acts (added : List Action) : acted (added.map .acts) = added := by
  unfold acted
  rw [filterMap_map]
  exact filterMap_some

theorem acted_map_resends (added : List Action) : acted (added.map .resends) = [] := by
  unfold acted
  rw [filterMap_map]
  exact filterMap_eq_nil_iff.mpr fun _ _ => rfl

theorem asked_map_acts (added : List Action) :
    (added.map Moment.acts).filterMap Moment.asked = added := by
  rw [filterMap_map]
  exact filterMap_some

theorem asked_map_resends (added : List Action) :
    (added.map Moment.resends).filterMap Moment.asked = added := by
  rw [filterMap_map]
  exact filterMap_some

theorem launched_of_acts {packet : Packet} (known : packet.ticket = some ticket)
    (sent : .acts (.sendSip packet) ∈ trace) : ticket ∈ launched trace :=
  mem_filterMap.mpr ⟨.sendSip packet, mem_filterMap.mpr ⟨_, sent, rfl⟩, known⟩

theorem Finished.append_acts {added : List Action}
    (finished : Finished (trace ++ added.map .acts) ticket) : Finished trace ticket := by
  obtain ⟨response, pending, member⟩ := finished
  refine ⟨response, pending, (mem_append.mp member).resolve_right fun late => ?_⟩
  obtain ⟨_, -, wrong⟩ := mem_map.mp late
  cases wrong

theorem Finished.append_resends {added : List Action}
    (finished : Finished (trace ++ added.map .resends) ticket) : Finished trace ticket := by
  obtain ⟨response, pending, member⟩ := finished
  refine ⟨response, pending, (mem_append.mp member).resolve_right fun late => ?_⟩
  obtain ⟨_, -, wrong⟩ := mem_map.mp late
  cases wrong

theorem orderly_acts {added : List Action} (nodup : (launched (trace ++ added.map .acts)).Nodup) :
    Each (fun past => Orderly (trace ++ past)) (added.map .acts) := by
  intro past moment future whole
  obtain ⟨early, late, rfl, rfl, rest⟩ := map_eq_append_iff.mp whole
  obtain ⟨action, late, rfl, rfl, rfl⟩ := map_eq_cons_iff.mp rest
  intro ticket known
  rw [map_append, ← append_assoc, launched_append] at nodup
  have split : launched ((action :: late).map .acts) = ticket :: launched (late.map .acts) := by
    unfold launched
    rw [acted_map_acts, acted_map_acts]
    exact filterMap_cons_some known
  rw [split] at nodup
  exact fun again => (nodup_middle.mp nodup).notMem (mem_append_left _ again)

end Traces

/-! ### Keeping the books -/

/-- What is pending was started and has not finished, and what has finished was started. -/
structure Books (state : Traced Host) : Prop where
  pending : ∀ transaction ∈ state.agent.transactions.values,
    .acts (.sendSip transaction.packet) ∈ state.trace ∧ ¬ Finished state.trace transaction.ticket
  finished : ∀ ticket, Finished state.trace ticket → ticket ∈ launched state.trace
  orderly : Each Orderly state.trace

/-- From one traced state to a later one the trace notes all that the agent asked for, and the books
are kept while no request is started twice. -/
structure Keeps (before after : Traced Host) (added : List Action) : Prop where
  log : after.agent.log = before.agent.log ++ added
  noted : acted after.trace = acted before.trace ++ added
  asked : after.trace.filterMap Moment.asked = before.trace.filterMap Moment.asked ++ added
  books : (launched after.trace).Nodup → Books before → Books after

namespace Keeps

variable {before middle after : Traced Host} {added more : List Action}

theorem refl (state : Traced Host) : Keeps state state [] :=
  ⟨(append_nil _).symm, (append_nil _).symm, (append_nil _).symm, fun _ books => books⟩

theorem nodup (keeps : Keeps before after added) (once : (launched after.trace).Nodup) :
    (launched before.trace).Nodup := by
  unfold launched at once ⊢
  rw [keeps.noted, tickets_append] at once
  exact (nodup_append'.mp once).1

theorem trans (first : Keeps before middle added) (second : Keeps middle after more) :
    Keeps before after (added ++ more) where
  log := by rw [second.log, first.log, append_assoc]
  noted := by rw [second.noted, first.noted, append_assoc]
  asked := by rw [second.asked, first.asked, append_assoc]
  books := fun once books => second.books once (first.books (second.nodup once) books)

end Keeps

theorem Transaction.ticket_of_packet {first second : Transaction}
    (same : first.packet = second.packet) : first.ticket = second.ticket := by
  have tickets := first.packet_ticket
  rw [same, second.packet_ticket] at tickets
  exact (Option.some.inj tickets).symm

/-- Handlers and commands start requests of their own. -/
theorem Keeps.moves {state : Traced Host} {after : UserAgent Host}
    {added : List Action} (starts : Launches state.agent after added) :
    Keeps state (state.moves after) added := by
  have trace : (state.moves after).trace = state.trace ++ added.map .acts := by
    show state.trace ++ (after.log.drop state.agent.log.length).map .acts = _
    rw [starts.log, drop_left]
  refine ⟨starts.log, ?_, ?_, fun once books => ⟨?_, ?_, ?_⟩⟩
  · rw [trace, acted_append, acted_map_acts]
  · rw [trace, filterMap_append, asked_map_acts]
  · intro transaction pending
    rw [trace]
    rcases starts.held transaction pending with ⟨old, kept, same⟩ | sent
    · obtain ⟨known, unfinished⟩ := books.pending old kept
      rw [← same, ← Transaction.ticket_of_packet same]
      exact ⟨mem_append_left _ known, mt Finished.append_acts unfinished⟩
    · refine ⟨mem_append_right _ (mem_map_of_mem sent), fun finished => ?_⟩
      -- A request that finished was started before, so it was not started now.
      have early := books.finished _ finished.append_acts
      have late : transaction.ticket ∈ launched (added.map .acts) :=
        launched_of_acts transaction.packet_ticket (mem_map_of_mem sent)
      rw [trace, launched_append] at once
      exact (nodup_append'.mp once).2.2 early late
  · intro ticket finished
    rw [trace] at finished ⊢
    rw [launched_append]
    exact mem_append_left _ (books.finished ticket finished.append_acts)
  · rw [trace] at once ⊢
    exact books.orderly.append (orderly_acts once)

theorem Keeps.still {state : Traced Host} {after : UserAgent Host}
    (log : after.log = state.agent.log)
    (held : ∀ transaction ∈ after.transactions.values,
      ∃ old ∈ state.agent.transactions.values, old.packet = transaction.packet) :
    Keeps state { state with agent := after } [] := by
  refine ⟨by rw [log, append_nil], (append_nil _).symm, (append_nil _).symm,
    fun _ books => ⟨fun transaction pending => ?_, books.finished, books.orderly⟩⟩
  obtain ⟨old, kept, same⟩ := held transaction pending
  rw [← same, ← Transaction.ticket_of_packet same]
  exact books.pending old kept

/-! ### Handlers -/

section Handlers

variable {state : Traced Host}

/-- A final handler begins to run. -/
theorem Books.finishes (books : Books state) {transaction : Transaction}
    (gone : ∀ other ∈ state.agent.transactions.values, other.key ≠ transaction.key)
    (known : transaction.ticket ∈ launched state.trace)
    (unfinished : ¬ Finished state.trace transaction.ticket) {response : Option Message}
    (final : ∀ message, response = some message → 200 ≤ message.status) :
    Books (state.notes (.finishes transaction.ticket response
      (state.agent.transactions.find transaction.key).isSome)) := by
  have absent : state.agent.transactions.find transaction.key = none := by
    rw [Option.eq_none_iff_forall_ne_some]
    intro other found
    obtain ⟨pending, same⟩ := find_eq_some_iff.mp found
    exact gone other pending same
  have first {ticket : Bytes × Bytes} (finished : Finished (state.notes (.finishes
      transaction.ticket response (state.agent.transactions.find transaction.key).isSome)).trace
        ticket) : Finished state.trace ticket ∨ ticket = transaction.ticket := by
    obtain ⟨answer, pending, member⟩ := finished
    rcases mem_append.mp member with early | late
    · exact Or.inl ⟨answer, pending, early⟩
    · cases mem_singleton.mp late
      exact Or.inr rfl
  refine ⟨fun other pending => ?_, fun ticket finished => ?_, ?_⟩
  · obtain ⟨started, waiting⟩ := books.pending other pending
    refine ⟨mem_append_left _ started, fun finished => ?_⟩
    rcases first finished with early | same
    · exact waiting early
    · -- Transactions of one branch and method have one key.
      exact gone other pending (Transaction.key_of_ticket same)
  · show ticket ∈ launched (state.trace ++ _)
    rw [launched_append]
    rcases first finished with early | rfl
    · exact mem_append_left _ (books.finished ticket early)
    · exact mem_append_left _ known
  · refine books.orderly.concat ⟨known, unfinished, ?_, final⟩
    rw [absent]
    rfl

/-- What the handler of a provisional response starts, once the transaction has noted it. -/
theorem Launches.proceeding {agent after : UserAgent Host} {added : List Action}
    {transaction : Transaction} (launches : Launches agent after added)
    (pending : transaction ∈ agent.transactions.values) (now : Time) :
    Launches { agent with transactions := agent.transactions.put (transaction.proceed now) } after
      added := by
  refine { launches with held := fun other member => (launches.held other member).imp_left ?_ }
  rintro ⟨old, kept, same⟩
  by_cases own : old.key = transaction.key
  · cases agent.transactions.eq_of_key_eq pending kept own
    exact ⟨_, mem_values_put.mpr (Or.inl rfl), (transaction.proceed_packet now).trans same⟩
  · rw [← transaction.proceed_key now] at own
    exact ⟨old, mem_values_put.mpr (Or.inr ⟨own, kept⟩), same⟩

/-- A provisional handler begins to run. -/
theorem Books.proceeds (books : Books state) {transaction : Transaction}
    (pending : transaction ∈ state.agent.transactions.values) :
    Books (state.notes (.proceeds transaction.ticket)) := by
  have first {ticket : Bytes × Bytes}
      (finished : Finished (state.notes (.proceeds transaction.ticket)).trace ticket) :
      Finished state.trace ticket := by
    obtain ⟨answer, found, member⟩ := finished
    refine ⟨answer, found, (mem_append.mp member).resolve_right fun late => ?_⟩
    cases mem_singleton.mp late
  obtain ⟨started, unfinished⟩ := books.pending transaction pending
  refine ⟨fun other found => ?_, fun ticket finished => ?_, ?_⟩
  · obtain ⟨known, other⟩ := books.pending other found
    exact ⟨mem_append_left _ known, mt first other⟩
  · show ticket ∈ launched (state.trace ++ _)
    rw [launched_append]
    exact mem_append_left _ (books.finished ticket (first finished))
  · exact books.orderly.concat ⟨launched_of_acts transaction.packet_ticket started, unfinished⟩

theorem Keeps.notes {start : Traced Host} {added : List Action} (keeps : Keeps start state added)
    {moment : Moment} (silent : moment.acted = none) (still : moment.asked = none)
    (books : Books start → Books state → Books (state.notes moment)) :
    Keeps start (state.notes moment) added := by
  have same : acted (state.notes moment).trace = acted state.trace := by
    show acted (state.trace ++ [moment]) = _
    rw [acted_append]
    exact (congrArg _ (filterMap_cons_none silent)).trans (append_nil _)
  have nothing : [moment].filterMap Moment.asked = [] := filterMap_cons_none still
  refine ⟨keeps.log, same.trans keeps.noted, ?_, fun once kept => books kept (keeps.books ?_ kept)⟩
  · show (state.trace ++ [moment]).filterMap _ = _
    rw [filterMap_append, nothing, append_nil, keeps.asked]
  · unfold launched at once ⊢
    exact same ▸ once

variable [UserAgentHost Host]

/-- What a final handler that runs without a response starts. -/
theorem Launches.runFinal_none (agent : UserAgent Host) (handler : FinalHandler) (now : Time) :
    ∃ added, Launches agent (agent.runFinal handler none now) added := by
  match handler with
  | .register expires authenticated =>
    exact ((RegisterSide.refl agent).onRegisterFinal none nofun expires authenticated now).launches
  | .invite context =>
    show ∃ added, Launches agent
      (if (agent.callOf context).isSome then agent.endCall .timeout 408 else agent) added
    split
    next own =>
      obtain ⟨call, found⟩ := Option.isSome_iff_exists.mp own
      have does := Does.refl agent
      rw [(callOf_eq_some found).1] at does
      have ended := does.endCall .timeout 408
      exact ⟨_, .silent ended.random ended.draws ended.log (call.farewell_tickets _ _)
        fun transaction member => ⟨transaction, ended.transactions ▸ member, rfl⟩⟩
    · exact ⟨_, .refl agent⟩
  | .ignore => exact ⟨_, .refl agent⟩

/-- What the handler of a final response starts, once the transaction is taken out. -/
theorem Launches.runFinal_some {agent : UserAgent Host} {response : Message}
    {transaction : Transaction} (received : Received response)
    (heard : agent.Heard (.hears response) response transaction) (final : 200 ≤ response.status)
    (now : Time) :
    ∃ added, Launches (agent.without transaction)
      ((agent.without transaction).runFinal transaction.onFinal (some response) now) added := by
  match handler : transaction.onFinal with
  | .register expires authenticated =>
    exact ((RegisterSide.refl _).onRegisterFinal (some response)
      (fun _ equal => Option.some.inj equal ▸ received) expires authenticated now).launches
  | .invite context =>
    obtain ⟨added, turn, replaces⟩ := CallTurn.onInviteFinal heard final handler now
    show ∃ added, Launches (agent.without transaction)
      ((agent.without transaction).onInviteFinal context (some response) now) added
    refine ⟨added, { turn.launches with held := fun other member => ?_ }⟩
    rcases replaces with equal | ⟨next, equal, sent, -⟩
    · rw [equal] at member
      exact Or.inl ⟨other, member, rfl⟩
    · rw [equal] at member
      rcases mem_values_put.mp member with rfl | ⟨-, old⟩
      · exact Or.inr sent
      · exact Or.inl ⟨other, old, rfl⟩
  | .ignore => exact ⟨_, .refl _⟩

/-- A final handler runs, after its transaction was taken out. -/
theorem Keeps.finish {start : Traced Host} {added : List Action} (keeps : Keeps start state added)
    {transaction : Transaction}
    (gone : ∀ other ∈ state.agent.transactions.values, other.key ≠ transaction.key)
    {response : Option Message}
    (final : ∀ message, response = some message → 200 ≤ message.status) {now : Time}
    (starts : ∃ more, Launches state.agent
      (state.agent.runFinal transaction.onFinal response now) more)
    (known : Books start → transaction.ticket ∈ launched state.trace ∧
      ¬ Finished state.trace transaction.ticket) :
    ∃ added, Keeps start (state.finish response now transaction) added := by
  obtain ⟨more, starts⟩ := starts
  have noted : Keeps start (state.notes (.finishes transaction.ticket response
      (state.agent.transactions.find transaction.key).isSome)) added :=
    keeps.notes rfl rfl fun before books =>
      books.finishes gone (known before).1 (known before).2 final
  exact ⟨_, noted.trans (.moves starts)⟩

/-- A pending transaction is taken out and its final handler runs. -/
theorem Keeps.erase {transaction : Transaction}
    (pending : transaction ∈ state.agent.transactions.values) {response : Option Message}
    (final : ∀ message, response = some message → 200 ≤ message.status) {now : Time}
    (starts : ∃ more, Launches (state.agent.without transaction)
      ((state.agent.without transaction).runFinal transaction.onFinal response now) more) :
    ∃ added, Keeps state (Traced.finish response now
      { state with agent := state.agent.without transaction } transaction) added := by
  have taken : Keeps state { state with agent := state.agent.without transaction } [] :=
    .still rfl fun other kept => ⟨other, (mem_values_erase.mp kept).1, rfl⟩
  refine taken.finish (fun other kept => (mem_values_erase.mp kept).2) final starts
    fun books => ?_
  obtain ⟨started, unfinished⟩ := books.pending transaction pending
  exact ⟨launched_of_acts transaction.packet_ticket started, unfinished⟩

omit [UserAgentHost Host] in
theorem final_of_none : ∀ message : Message, none = some message → 200 ≤ message.status :=
  fun _ missing => nomatch missing

theorem Keeps.expire (state : Traced Host) (now : Time) (key : Bytes) :
    ∃ added, Keeps state (state.expire now key) added := by
  unfold Traced.expire
  split
  · exact ⟨[], .refl state⟩
  next transaction found =>
    obtain ⟨pending, rfl⟩ := find_eq_some_iff.mp found
    exact Keeps.erase pending final_of_none (Launches.runFinal_none _ _ now)

theorem Keeps.foldl_expire (state : Traced Host) (now : Time) (keys : List Bytes) :
    ∃ added, Keeps state (keys.foldl (Traced.expire now) state) added := by
  refine loop_keeps (fun later => ∃ added, Keeps state later added) keys
    (fun later key _ kept => ?_) ⟨[], .refl state⟩
  obtain ⟨added, keeps⟩ := kept
  obtain ⟨more, further⟩ := Keeps.expire later now key
  exact ⟨_, keeps.trans further⟩

/-- The handlers of transactions that were all taken out at once run one after the other. -/
theorem Keeps.foldl_finish (now : Time) {values : List Transaction}
    (apart : values.Pairwise fun first second => first.key < second.key) {start : Traced Host}
    {added : List Action} (keeps : Keeps start state added)
    (empty : state.agent.transactions = OrderedMap.empty)
    (known : Books start → ∀ transaction ∈ values, transaction.ticket ∈ launched state.trace ∧
      ¬ Finished state.trace transaction.ticket) :
    ∃ added, Keeps start (values.foldl (Traced.finish none now) state) added := by
  induction values generalizing state added with
  | nil => exact ⟨added, keeps⟩
  | cons transaction values hypothesis =>
    obtain ⟨below, apartRest⟩ := pairwise_cons.mp apart
    have fresh : ∀ other ∈ state.agent.transactions.values, other.key ≠ transaction.key := by
      rw [empty]
      exact fun _ missing => absurd missing not_mem_nil
    obtain ⟨_, finished⟩ := keeps.finish fresh final_of_none (Launches.runFinal_none _ _ now)
      fun books => known books transaction mem_cons_self
    refine hypothesis apartRest finished ?_ fun books later member => ?_
    · show (state.agent.runFinal transaction.onFinal _ now).transactions = _
      rw [runFinal_none_transactions, empty]
    · obtain ⟨started, unfinished⟩ := known books later (mem_cons_of_mem _ member)
      refine ⟨?_, fun lapsed => ?_⟩
      · show _ ∈ launched (_ ++ _ ++ _)
        rw [launched_append, launched_append]
        exact mem_append_left _ (mem_append_left _ started)
      · -- The later transaction has another key, so the handler that ran was not its own.
        obtain ⟨response, pending, marked⟩ := lapsed.append_acts
        rcases mem_append.mp marked with early | own
        · exact unfinished ⟨response, pending, early⟩
        · have same : later.ticket = transaction.ticket :=
            (Moment.finishes.inj (mem_singleton.mp own)).1
          exact absurd (below later member) (Transaction.key_of_ticket same ▸ lt_irrefl _)

end Handlers

/-! ### Operations -/

section Operations

variable [UserAgentHost Host] (state : Traced Host) (now : Time)

theorem Traced.expire_agent (key : Bytes) :
    (state.expire now key).agent = state.agent.expire now key := by
  unfold expire UserAgent.expire
  cases state.agent.transactions.find key <;> rfl

theorem Traced.foldl_expire_agent (keys : List Bytes) :
    (keys.foldl (expire now) state).agent = keys.foldl (UserAgent.expire now) state.agent := by
  induction keys generalizing state with
  | nil => rfl
  | cons key keys hypothesis =>
    rw [foldl_cons, hypothesis, foldl_cons, expire_agent]

theorem Traced.foldl_finish_agent (values : List Transaction) :
    (values.foldl (finish none now) state).agent =
      values.foldl (fun agent transaction => agent.runFinal transaction.onFinal none now)
        state.agent := by
  induction values generalizing state with
  | nil => rfl
  | cons transaction values hypothesis => exact hypothesis _

theorem Traced.onResponse_agent (response : Message) :
    (state.onResponse response now).agent = state.agent.onResponse response now := by
  unfold onResponse
  cases read : parseCseq (response.headerOr "cseq") with
  | none =>
    unfold UserAgent.onResponse
    rw [read]
  | some cseq =>
    dsimp only
    cases found :
      state.agent.transactions.find (transactionKey (branchOf response) cseq.method) with
    | none => rfl
    | some transaction =>
      unfold UserAgent.onResponse
      simp only [read, found]
      split
      · cases transaction.onProvisional <;> rfl
      · rfl

theorem Traced.onMessage_agent (datagram : Bytes) :
    (state.onMessage datagram now).agent = state.agent.onMessage datagram now := by
  unfold onMessage UserAgent.onMessage
  cases parseMessage datagram with
  | none => rfl
  | some message =>
    dsimp only
    split
    · exact state.onResponse_agent now message
    · rfl

@[simp]
theorem Traced.step_agent (op : Op) : (state.step op).agent = state.agent.step op := by
  cases op with
  | transportDown now =>
    show (Traced.onTransportDown now state).agent = state.agent.onTransportDown now
    unfold Traced.onTransportDown UserAgent.onTransportDown
    simp only [moves, foldl_finish_agent]
  | message datagram now => exact state.onMessage_agent now datagram
  | timer now =>
    show (Traced.onTimer now state).agent = state.agent.onTimer now
    unfold Traced.onTimer UserAgent.onTimer
    simp only [moves, foldl_expire_agent]
    rfl
  | _ => rfl

theorem Keeps.onTransportDown : ∃ added, Keeps state (state.onTransportDown now) added := by
  have emptied : Keeps state
      { state with agent := { state.agent with transactions := OrderedMap.empty } } [] :=
    .still rfl fun _ missing => nomatch missing
  obtain ⟨added, failed⟩ := emptied.foldl_finish now state.agent.transactions.sorted rfl
    fun books transaction pending => by
      obtain ⟨started, unfinished⟩ := books.pending transaction pending
      exact ⟨launched_of_acts transaction.packet_ticket started, unfinished⟩
  let after := state.agent.transactions.values.foldl (Traced.finish none now)
    { state with agent := { state.agent with transactions := OrderedMap.empty } }
  have reported : ∃ added, Launches after.agent
      (if after.agent.registration.registered then
        { after.agent with
          registration := { after.agent.registration with registered := false } }.emit
            { kind := .registration, status := 503 }
      else after.agent) added := by
    split
    · have lost := (RegisterSide.refl after.agent).setRegistration
        { after.agent.registration with registered := false } rfl rfl
      exact (lost.report _).launches
    · exact ⟨_, .refl after.agent⟩
  obtain ⟨more, starts⟩ := reported
  exact ⟨_, failed.trans (.moves starts)⟩

theorem Keeps.onResponse {datagram : Bytes} {response : Message}
    (parsed : parseMessage datagram = some response) (isResponse : response.isResponse = true) :
    ∃ added, Keeps state (state.onResponse response now) added := by
  unfold Traced.onResponse
  split
  · exact ⟨[], .refl state⟩
  next cseq read =>
    dsimp only
    split
    next missing =>
      obtain ⟨added, step⟩ := CallStep.onMessage state.agent parsed now
      unfold UserAgent.onMessage at step
      simp only [parsed, isResponse] at step
      exact ⟨added, .moves step.launches⟩
    next transaction found =>
      obtain ⟨pending, same⟩ := OrderedMap.find_eq_some_iff.mp found
      have heard : state.agent.Heard (.hears response) response transaction := by
        refine ⟨rfl, isResponse, ?_, pending⟩
        unfold responseKey
        rw [read, same]
        rfl
      split
      next provisional =>
        have proceeding : Keeps state { state with agent := { state.agent with
            transactions := state.agent.transactions.put (transaction.proceed now) } } [] := by
          refine .still rfl fun other member => ?_
          rcases OrderedMap.mem_values_put.mp member with rfl | ⟨-, old⟩
          · exact ⟨transaction, pending, (transaction.proceed_packet now).symm⟩
          · exact ⟨other, old, rfl⟩
        split
        next id named =>
          have still : transaction.proceed now ∈
              (state.agent.transactions.put (transaction.proceed now)).values :=
            OrderedMap.mem_values_put.mpr (Or.inl rfl)
          have ticket : (transaction.proceed now).ticket = transaction.ticket :=
            Transaction.ticket_of_packet (transaction.proceed_packet now)
          have noted : Keeps state (Traced.notes (.proceeds transaction.ticket)
              { state with agent := { state.agent with
                transactions := state.agent.transactions.put (transaction.proceed now) } }) [] :=
            proceeding.notes rfl rfl fun _ books => ticket ▸ books.proceeds still
          obtain ⟨added, turn, -⟩ := CallTurn.onInviteProvisional heard provisional named now
          exact ⟨_, noted.trans (.moves (turn.launches.proceeding pending now))⟩
        · exact ⟨[], proceeding⟩
      next final =>
        rw [Int.not_lt] at final
        rw [← same]
        refine Keeps.erase pending (fun message equal => ?_)
          (Launches.runFinal_some ⟨datagram, parsed⟩ heard final now)
        exact Option.some.inj equal ▸ final

theorem Keeps.onMessage (datagram : Bytes) :
    ∃ added, Keeps state (state.onMessage datagram now) added := by
  unfold Traced.onMessage
  split
  · exact ⟨[], .refl state⟩
  next message parsed =>
    split
    next isResponse => exact Keeps.onResponse state now parsed isResponse
    next isRequest =>
      obtain ⟨added, turn⟩ : ∃ added, CallTurn (.hears message) added state.agent
          (state.agent.onRequest message) :=
        CallTurn.onRequest rfl (Bool.eq_false_iff.mpr isRequest)
      exact ⟨added, .moves turn.launches⟩

omit [UserAgentHost Host] in
theorem orderly_resends {state : Traced Host} (books : Books state) {added : List Action}
    (due : ∀ action ∈ added, ∃ transaction ∈ state.agent.transactions.values,
      .sendSip transaction.packet = action) :
    Each (fun past => Orderly (state.trace ++ past)) (added.map .resends) := by
  intro past moment future whole
  obtain ⟨early, late, rfl, rfl, rest⟩ := map_eq_append_iff.mp whole
  obtain ⟨action, late, rfl, rfl, rfl⟩ := map_eq_cons_iff.mp rest
  obtain ⟨transaction, pending, rfl⟩ :=
    due action (mem_append_right _ mem_cons_self)
  obtain ⟨started, unfinished⟩ := books.pending transaction pending
  exact ⟨mem_append_left _ started, _, transaction.packet_ticket,
    mt Finished.append_resends unfinished⟩

theorem Traced.retransmit_trace :
    (state.retransmit now).trace =
      state.trace ++ (state.agent.resent (.timer now)).map .resends := by
  show state.trace ++ _ = _
  rw [state.agent.retransmit_log now, drop_left]
  rfl

theorem Books.retransmit {state : Traced Host} (books : Books state) (now : Time) :
    Books (state.retransmit now) := by
  have same : launched (state.retransmit now).trace = launched state.trace := by
    unfold launched
    rw [state.retransmit_trace now, acted_append, acted_map_resends, append_nil]
  refine ⟨fun transaction pending => ?_, fun ticket finished => ?_, ?_⟩
  · obtain ⟨old, before, rfl⟩ := (state.agent.mem_retransmit now).mp pending
    obtain ⟨started, unfinished⟩ := books.pending old before
    rw [state.retransmit_trace now, Transaction.backOff_packet,
      Transaction.ticket_of_packet (old.backOff_packet now)]
    exact ⟨mem_append_left _ started, mt Finished.append_resends unfinished⟩
  · rw [same]
    rw [state.retransmit_trace now] at finished
    exact books.finished ticket finished.append_resends
  · rw [state.retransmit_trace now]
    exact books.orderly.append (orderly_resends books fun _ => pending_of_resent)

/-- A traced agent when it has sent again what an operation sends again. -/
def Traced.resending : Op → Traced Host
  | .timer now => state.retransmit now
  | _ => state

theorem Keeps.command {op : Op} (plain : state.agent.resending op = state.agent) :
    ∃ added, Keeps state (state.moves (state.agent.step op)) added := by
  obtain ⟨added, starts⟩ := Launches.step state.agent op
  rw [plain] at starts
  exact ⟨added, .moves starts⟩

theorem Keeps.step (op : Op) : ∃ added, Keeps (state.resending op) (state.step op) added := by
  cases op with
  | transportDown now => exact Keeps.onTransportDown state now
  | message datagram now => exact Keeps.onMessage state now datagram
  | timer now =>
    obtain ⟨added, expired⟩ := Keeps.foldl_expire (state.retransmit now) now
      (state.agent.expiredKeys now)
    let after := (state.agent.expiredKeys now).foldl (Traced.expire now) (state.retransmit now)
    obtain ⟨waited, turn⟩ := CallTurn.awaitAck after.agent now
    obtain ⟨more, starts⟩ := ((RegisterSide.refl (after.agent.awaitAck now)).refresh now).launches
    exact ⟨_, expired.trans (.moves (turn.launches.trans starts))⟩
  | _ => exact Keeps.command state rfl

theorem Traced.resending_agent (op : Op) :
    (state.resending op).agent = state.agent.resending op := by
  cases op <;> rfl

theorem Traced.acted_resending (op : Op) :
    acted (state.resending op).trace = acted state.trace := by
  cases op with
  | timer now =>
    show acted (state.retransmit now).trace = _
    rw [state.retransmit_trace now, acted_append, acted_map_resends, append_nil]
  | _ => rfl

theorem Traced.asked_resending (op : Op) :
    (state.resending op).trace.filterMap Moment.asked =
      state.trace.filterMap Moment.asked ++ state.agent.resent op := by
  cases op with
  | timer now =>
    show (state.retransmit now).trace.filterMap _ = _
    rw [state.retransmit_trace now, filterMap_append, asked_map_resends]
  | _ => exact (append_nil _).symm

theorem Books.resending {state : Traced Host} (books : Books state) (op : Op) :
    Books (state.resending op) := by
  cases op with
  | timer now => exact books.retransmit now
  | _ => exact books

end Operations

/-! ### What a lost connection ends -/

section Loss

variable [UserAgentHost Host] (now : Time)

theorem Traced.mem_foldl_finish {values : List Transaction} {state : Traced Host} {moment : Moment}
    (noted : moment ∈ state.trace) : moment ∈ (values.foldl (finish none now) state).trace :=
  loop_keeps (fun later : Traced Host => moment ∈ later.trace) values
    (fun _ _ _ noted => mem_append_left _ (mem_append_left _ noted)) noted

theorem Traced.foldl_finish_finishes {values : List Transaction} {state : Traced Host}
    (empty : state.agent.transactions = OrderedMap.empty) {transaction : Transaction}
    (member : transaction ∈ values) :
    .finishes transaction.ticket none false ∈
      (values.foldl (finish none now) state).trace := by
  induction values generalizing state with
  | nil => exact absurd member not_mem_nil
  | cons first values hypothesis =>
    rw [foldl_cons]
    rcases mem_cons.mp member with rfl | later
    · refine mem_foldl_finish now (mem_append_left _ (mem_append_right _ ?_))
      rw [empty]
      exact mem_singleton_self _
    · refine hypothesis ?_ later
      show (state.agent.runFinal first.onFinal none now).transactions = _
      rw [runFinal_none_transactions, empty]

theorem Traced.onTransportDown_finishes (state : Traced Host) {transaction : Transaction}
    (pending : transaction ∈ state.agent.transactions.values) :
    .finishes transaction.ticket none false ∈ (state.onTransportDown now).trace :=
  mem_append_left _ (foldl_finish_finishes now rfl pending)

end Loss

/-! ### Whole runs -/

theorem ticket_eq_cancel_iff (branch : Bytes) (action : Action) :
    action.ticket = some (branch, ascii "CANCEL") ↔ (action.cancelOn branch).isSome = true := by
  match action with
  | .sendSip (.request content own) =>
    have other : ascii "CANCEL" ≠ ascii "ACK" := by decide
    simp only [Action.ticket, Packet.ticket, Action.cancelOn]
    split
    next ack => simp [ack, other.symm]
    next => simp [and_comm]
  | .sendSip (.response _) => simp [Action.ticket, Packet.ticket, Action.cancelOn]
  | .sendSip (.ackForFailure _ _) => simp [Action.ticket, Packet.ticket, Action.cancelOn]
  | .openMedia _ => simp [Action.ticket, Action.cancelOn]
  | .startMedia _ _ => simp [Action.ticket, Action.cancelOn]
  | .closeMedia => simp [Action.ticket, Action.cancelOn]
  | .emit _ => simp [Action.ticket, Action.cancelOn]
  | .begin _ _ _ => simp [Action.ticket, Action.cancelOn]

theorem count_tickets_cancel (branch : Bytes) (past : List Action) :
    (tickets past).count (branch, ascii "CANCEL") = (cancelsOn branch past).length := by
  unfold tickets cancelsOn
  rw [count_filterMap, length_filterMap_eq_countP]
  refine countP_congr fun action _ => ?_
  rw [beq_iff_eq]
  exact ticket_eq_cancel_iff branch action

/-- Requests are started once while CANCELs are, since the others are on branches of their own. -/
theorem Launches.nodup {before after : UserAgent Host}
    {past added : List Action} (starts : Launches before after added)
    (distinct : after.random.Distinct after.draws)
    (once : ∀ branch, (cancelsOn branch (past ++ added)).length ≤ 1)
    (drawn : ∀ ticket ∈ tickets past, ticket.2 = ascii "CANCEL" ∨ before.Drew ticket.1)
    (nodup : (tickets past).Nodup) : (tickets (past ++ added)).Nodup := by
  refine nodup_iff_count_le_one.mpr fun ticket => ?_
  by_cases cancel : ticket.2 = ascii "CANCEL"
  · have whole : ticket = (ticket.1, ascii "CANCEL") := Prod.ext rfl cancel
    rw [whole, count_tickets_cancel]
    exact once ticket.1
  · rw [tickets_append, count_append]
    by_cases new : ticket ∈ tickets added
    · obtain ⟨draw, bounds, branch⟩ := (starts.fresh ticket new).resolve_left cancel
      have unknown : ticket ∉ tickets past := by
        intro old
        refine not_drew distinct starts.random bounds ?_
        exact branch ▸ (drawn ticket old).resolve_left cancel
      have single := nodup_iff_count_le_one.mp (starts.apart (starts.random ▸ distinct)) ticket
      rw [count_filter (by simpa using cancel)] at single
      rw [count_eq_zero.mpr unknown, Nat.zero_add]
      exact single
    · rw [count_eq_zero.mpr new, Nat.add_zero]
      exact nodup_iff_count_le_one.mp nodup ticket

/-- What holds of a traced agent between operations. -/
structure Accounted (state : Traced Host) : Prop where
  told : state.trace.filterMap Moment.asked = state.agent.log
  linked : state.agent.Linked
  pursuit : Pursuit (fun _ => False) (fun _ => False) (acted state.trace) state.agent
  drawn : ∀ ticket ∈ launched state.trace, ticket.2 = ascii "CANCEL" ∨ state.agent.Drew ticket.1
  nodup : (launched state.trace).Nodup
  books : Books state

variable [UserAgentHost Host]

theorem Accounted.create (config : UserAgentConfig) (host : Host) (random : Random) :
    Accounted (Traced.create config host random) where
  told := rfl
  linked := .of_idle rfl
  pursuit := (Pursuit.create config host random).congr (fun _ => by simp [Proceeded])
    fun _ => by simp [GivenUp]
  drawn := fun _ missing => nomatch missing
  nodup := nodup_nil
  books :=
    { pending := fun _ missing => nomatch missing
      finished := fun _ ⟨_, _, missing⟩ => nomatch missing
      orderly := .of_forall fun _ missing => nomatch missing }

theorem Traced.acted_step (state : Traced Host) (op : Op) :
    acted (state.step op).trace = acted state.trace ++ state.agent.started op := by
  obtain ⟨added, keeps⟩ := Keeps.step state op
  have log := keeps.log
  rw [state.step_agent, state.resending_agent, state.agent.resending_log] at log
  rw [keeps.noted, state.acted_resending, started_eq log]

theorem Accounted.step {state : Traced Host} (accounted : Accounted state) (op : Op)
    (distinct : (state.agent.step op).random.Distinct (state.agent.step op).draws) :
    Accounted (state.step op) := by
  obtain ⟨added, keeps⟩ := Keeps.step state op
  obtain ⟨whole, starts⟩ := Launches.step state.agent op
  have started : state.agent.started op = whole :=
    started_eq (by rw [starts.log, state.agent.resending_log])
  have noted : acted (state.step op).trace = acted state.trace ++ whole :=
    started ▸ state.acted_step op
  have pursuit := accounted.pursuit.others accounted.linked op distinct
  rw [started, ← noted, ← state.step_agent] at pursuit
  have drew {branch : Bytes} (drawn : state.agent.Drew branch) :
      (state.agent.resending op).Drew branch :=
    resending_keeps (fun agent => agent.Drew branch) (fun agent now drawn => by
      obtain ⟨host, equal⟩ := agent.retransmit_eq now
      rw [equal]
      exact drawn) drawn op
  have nodup : (launched (state.step op).trace).Nodup := by
    unfold launched
    rw [noted]
    refine starts.nodup distinct (fun branch => noted ▸ pursuit.once branch) ?_ accounted.nodup
    exact fun ticket member => (accounted.drawn ticket member).imp_right drew
  refine ⟨?_, ?_, pursuit, fun ticket member => ?_, nodup,
    keeps.books nodup (accounted.books.resending op)⟩
  · rw [keeps.asked, state.asked_resending, accounted.told, keeps.log, state.resending_agent,
      state.agent.resending_log]
  · rw [state.step_agent]
    exact step_keeps (fun _ now linked => linked.retransmit now)
      (fun step linked => step.linked linked) accounted.linked op
  · rw [state.step_agent]
    unfold launched at member
    rw [noted, tickets_append, mem_append] at member
    rcases member with old | new
    · exact (accounted.drawn ticket old).imp_right fun drawn =>
        (drew drawn).mono starts.random starts.draws
    · refine (starts.fresh ticket new).imp_right fun ⟨draw, bounds, branch⟩ => ?_
      exact ⟨draw, bounds.2, starts.random ▸ branch⟩

theorem Accounted.run {start : Traced Host} (accounted : Accounted start) (ops : List Op)
    (distinct : (KetPhone.run Traced.step start ops).agent.random.Distinct
      (KetPhone.run Traced.step start ops).agent.draws) :
    Accounted (KetPhone.run Traced.step start ops) := by
  induction ops using List.reverseRecOn with
  | nil => exact accounted
  | append_singleton ops op hypothesis =>
    rw [run_append, run_cons, run_nil, Traced.step_agent] at distinct
    rw [run_append, run_cons, run_nil]
    exact (hypothesis distinct.of_step).step op distinct

theorem Traced.run_agent (start : Traced Host) (ops : List Op) :
    (run step start ops).agent = run UserAgent.step start.agent ops := by
  induction ops generalizing start with
  | nil => rfl
  | cons op ops hypothesis =>
    rw [run_cons, run_cons, hypothesis, step_agent]

theorem accounted_run (config : UserAgentConfig) (host : Host) (random : Random) (ops : List Op)
    (distinct : random.Distinct
      (run UserAgent.step (UserAgent.create config host random) ops).draws) :
    Accounted (run Traced.step (Traced.create config host random) ops) := by
  refine (Accounted.create config host random).run ops ?_
  rw [(Traced.create config host random).run_agent, run_random]
  exact distinct

/-- Every transaction finishes once. In every run, while the branches drawn differ, the trace is
that of the agent and tells all it asked for, and it is orderly: each request is started once; its
final handler runs at most once, when the transaction is not pending any more and with a final
response or none; and after that the request is not sent again and its provisional handler does not
run. -/
theorem transactions_finish_once (config : UserAgentConfig) (host : Host) (random : Random)
    (ops : List Op)
    (distinct : random.Distinct
      (run UserAgent.step (UserAgent.create config host random) ops).draws) :
    (run Traced.step (Traced.create config host random) ops).agent =
        run UserAgent.step (UserAgent.create config host random) ops ∧
      (run Traced.step (Traced.create config host random) ops).trace.filterMap Moment.asked =
        (run UserAgent.step (UserAgent.create config host random) ops).log ∧
      Each Orderly (run Traced.step (Traced.create config host random) ops).trace := by
  have agent := (Traced.create config host random).run_agent ops
  have accounted := accounted_run config host random ops distinct
  exact ⟨agent, agent ▸ accounted.told, accounted.books.orderly⟩

/-- Registers, and then the time of the request is over. -/
def registerUnanswered : List Op :=
  [.startRegistration 0, .timer (milliseconds 500), .timer (seconds 32), .timer (seconds 33)]

/-- What kind of moment it is. -/
def Moment.kind : Moment → Nat
  | .acts _ => 0
  | .resends _ => 1
  | .proceeds _ => 2
  | .finishes _ _ _ => 3

/-- A REGISTER that is sent, sent again and given up. -/
theorem registerUnanswered_finishes_once :
    (run Traced.step (Traced.create UserAgent.ideal.config ({} : IdealHost) Random.counting)
        registerUnanswered).trace.map Moment.kind = [0, 1, 3, 0] ∧
      Each Orderly (run Traced.step
        (Traced.create UserAgent.ideal.config ({} : IdealHost) Random.counting)
          registerUnanswered).trace := by
  have once := transactions_finish_once UserAgent.ideal.config ({} : IdealHost) Random.counting
    registerUnanswered (Random.counting_distinct _)
  refine ⟨by decide +kernel, once.2.2⟩

end KetPhone.Core
