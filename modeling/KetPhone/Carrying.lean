/-
This file follows the requests of the user agent onto the wire. While there is a
connection, what it got is the concatenation of what was sent since the last one was
dropped, keep-alives in between; while there is none, that is what waits for one,
but for messages that were refused because too much waits already. Every pending
transaction has its request among them. A connection lasts until it was closed, its
framer has failed or the link is to be made anew; then it is dropped, and every
pending transaction ends without a response in the same turn.
-/

import KetPhone.Link
import KetPhone.UserAgent.Finishing

namespace KetPhone.Core

open Sip List UserAgent

variable {Media : Type}

/-! ### Streams of transfers -/

/-- The message that was to be sent. -/
def Transfer.message : Transfer → Option Bytes
  | .handed message => some message
  | .queued message => some message
  | .refused message => some message
  | .keepAlive => none

/-- What goes to the connection. -/
def Transfer.bytes : Transfer → Bytes
  | .handed message => message
  | .queued message => message
  | .refused _ => []
  | .keepAlive => ascii "\r\n\r\n"

/-- Whether there was no connection. -/
def Transfer.waited : Transfer → Bool
  | .queued _ => true
  | .refused _ => true
  | _ => false

def messagesOf (transfers : List Transfer) : List Bytes := transfers.filterMap Transfer.message

def streamOf (transfers : List Transfer) : Bytes := transfers.flatMap Transfer.bytes

/-- The bytes of a message that was sent. -/
def Action.sent (config : UserAgentConfig) : Action → Option Bytes
  | .sendSip packet => some (packet.bytes config)
  | _ => none

/-- A message is refused only while there is no connection and too much waits for one. -/
def Refusal (past : List Transfer) (transfer : Transfer) : Prop :=
  ∀ message, transfer = .refused message →
    (∀ earlier ∈ past, earlier.waited = true) ∧
      kPendingLimit < (streamOf past).length + message.length

/-- What the connection got, or else what waits for one, is what was transferred. -/
structure Wire.Carries (wire : Wire Media) : Prop where
  handed : ∀ sent, wire.connection = some sent →
    sent.flatten = streamOf wire.transfers ∧ wire.pending = []
  waiting : wire.connection = none →
    wire.pending = streamOf wire.transfers ∧ ∀ transfer ∈ wire.transfers, transfer.waited = true
  refusals : Each Refusal wire.transfers

theorem streamOf_concat (transfers : List Transfer) (transfer : Transfer) :
    streamOf (transfers ++ [transfer]) = streamOf transfers ++ transfer.bytes := by
  unfold streamOf
  rw [flatMap_append, flatMap_singleton]

theorem messagesOf_concat (transfers : List Transfer) {transfer : Transfer} {message : Bytes}
    (carries : transfer.message = some message) :
    messagesOf (transfers ++ [transfer]) = messagesOf transfers ++ [message] := by
  unfold messagesOf
  rw [filterMap_append, filterMap_cons_some carries, filterMap_nil]

theorem Wire.reset_eq {wire : Wire Media} (absent : wire.connection = none) :
    wire.reset = wire := by
  unfold Wire.reset
  rw [absent]
  cases wire
  cases absent
  rfl

namespace Wire.Carries

variable {wire : Wire Media}

theorem sendSip (carries : wire.Carries) (message : Bytes) :
    (wire.sendSip message).Carries ∧
      messagesOf (wire.sendSip message).transfers = messagesOf wire.transfers ++ [message] := by
  unfold Wire.sendSip
  split
  next sent present =>
    obtain ⟨stream, empty⟩ := carries.handed sent present
    refine ⟨⟨?_, nofun, carries.refusals.concat nofun⟩, messagesOf_concat _ rfl⟩
    rintro _ ⟨⟩
    refine ⟨?_, empty⟩
    rw [flatten_concat, stream, streamOf_concat]
    rfl
  next absent =>
    obtain ⟨stream, waited⟩ := carries.waiting absent
    have more {transfer : Transfer} (waits : transfer.waited = true) :
        ∀ other ∈ wire.transfers ++ [transfer], other.waited = true := by
      intro other member
      rcases mem_append.mp member with old | new
      · exact waited other old
      · rw [mem_singleton.mp new]
        exact waits
    split
    · refine ⟨⟨fun sent present => ?_, fun _ => ⟨?_, more rfl⟩, carries.refusals.concat nofun⟩,
        messagesOf_concat _ rfl⟩
      · exact nomatch absent.symm.trans present
      · rw [stream, streamOf_concat]
        rfl
    next full =>
      refine ⟨⟨fun sent present => ?_, fun _ => ⟨?_, more rfl⟩, carries.refusals.concat ?_⟩,
        messagesOf_concat _ rfl⟩
      · exact nomatch absent.symm.trans present
      · rw [stream, streamOf_concat]
        exact (append_nil _).symm
      · rintro _ ⟨⟩
        exact ⟨waited, stream ▸ Nat.lt_of_not_le full⟩

theorem keepAlive (carries : wire.Carries) :
    wire.keepAlive.Carries ∧ messagesOf wire.keepAlive.transfers = messagesOf wire.transfers := by
  unfold Wire.keepAlive
  split
  next sent present =>
    obtain ⟨stream, empty⟩ := carries.handed sent present
    refine ⟨⟨?_, nofun, carries.refusals.concat nofun⟩, ?_⟩
    · rintro _ ⟨⟩
      refine ⟨?_, empty⟩
      rw [flatten_concat, stream, streamOf_concat]
      rfl
    · show List.filterMap _ (_ ++ _) = _
      rw [filterMap_append]
      exact append_nil _
  · exact ⟨carries, rfl⟩

theorem reset (carries : wire.Carries) : wire.reset.Carries := by
  cases present : wire.connection with
  | none => exact (Wire.reset_eq present).symm ▸ carries
  | some sent =>
    have fresh : wire.reset.transfers = [] := by
      unfold Wire.reset
      rw [present]
      rfl
    refine ⟨nofun, fun _ => ?_, fresh ▸ .of_forall fun _ missing => nomatch missing⟩
    rw [fresh]
    exact ⟨(carries.handed sent present).2, fun _ missing => nomatch missing⟩

theorem connect (carries : wire.Carries) (absent : wire.connection = none) :
    wire.connect.Carries := by
  obtain ⟨stream, -⟩ := carries.waiting absent
  refine ⟨?_, nofun, carries.refusals⟩
  rintro _ ⟨⟩
  refine ⟨?_, rfl⟩
  show List.flatten (if _ then _ else _) = streamOf wire.transfers
  rw [← stream]
  split
  next empty => rw [empty]; rfl
  · exact append_nil _

end Wire.Carries

/-- What the agent asks of the wire is carried. -/
theorem Drives.carries [UserAgentHost Media] {config : UserAgentConfig} {wire later : Wire Media}
    {actions : List Action} (drives : Drives config wire actions later) (carries : wire.Carries) :
    later.Carries ∧ messagesOf later.transfers =
      messagesOf wire.transfers ++ actions.filterMap (Action.sent config) := by
  have silent (past : List Action) {action : Action} (unsent : action.sent config = none) :
      (past ++ [action]).filterMap (Action.sent config) = past.filterMap (Action.sent config) := by
    rw [filterMap_append, filterMap_cons_none unsent]
    exact append_nil _
  induction drives with
  | refl => exact ⟨carries, (append_nil _).symm⟩
  | sendSip _ packet hypothesis =>
    obtain ⟨carried, messages⟩ := hypothesis
    refine ⟨(carried.sendSip (packet.bytes config)).1, ?_⟩
    refine (carried.sendSip (packet.bytes config)).2.trans ?_
    rw [messages, append_assoc, filterMap_append]
    rfl
  | openMedia _ hypothesis =>
    rw [silent _ rfl]
    exact ⟨{ hypothesis.1 with }, hypothesis.2⟩
  | startMedia _ _ hypothesis =>
    rw [silent _ rfl]
    exact ⟨{ hypothesis.1 with }, hypothesis.2⟩
  | closeMedia _ hypothesis =>
    rw [silent _ rfl]
    exact ⟨{ hypothesis.1 with }, hypothesis.2⟩
  | emit _ _ hypothesis =>
    rw [silent _ rfl]
    exact hypothesis
  | begin _ _ _ _ hypothesis =>
    rw [silent _ rfl]
    exact hypothesis
  | allocate _ hypothesis => exact ⟨{ hypothesis.1 with }, hypothesis.2⟩

/-! ### Turns -/

section Turns

variable [UserAgentHost Media]

theorem UserAgent.onTransportDown_transactions {Host : Type} [UserAgentHost Host]
    (agent : UserAgent Host) (now : Time) :
    (agent.onTransportDown now).transactions = OrderedMap.empty := by
  have emptied := loop_keeps (fun later : UserAgent Host => later.transactions = OrderedMap.empty)
    agent.transactions.values
    (fun later transaction _ empty =>
      (later.runFinal_none_transactions now transaction.onFinal).trans empty)
    (show UserAgent.transactions { agent with transactions := OrderedMap.empty } = _ from rfl)
  unfold onTransportDown
  dsimp only
  split
  · exact emptied
  · exact emptied

/-- The turns that find the connection at its end: the next event is that it was closed, the framer
has failed once the last message is read, or the link is to be made anew while it is up. -/
def TlsEngine.Ends (engine : TlsEngine Media) : Turn Media → Prop
  | .event _ => engine.reading = none ∧
      ∃ rest, engine.batch = { generation := engine.generation, kind := .closed } :: rest
  | .message _ => engine.reading.isSome = true ∧ engine.framer.next.1 = none ∧
      engine.framer.next.2.failed = true
  | .relink _ => engine.drained = true ∧ engine.relink = true ∧ engine.link = .up
  | _ => False

/-- What a turn does to the user agent and the connection. -/
inductive TlsEngine.Deed (engine : TlsEngine Media) (turn : Turn Media) (later : TlsEngine Media) :
    Prop
  | rests (agent : later.agent = engine.agent) (generation : later.generation = engine.generation)
  | operates (op : Op) (agent : later.agent = engine.agent.step op)
      (generation : later.generation = engine.generation)
  | keepsAlive (agent : later.agent = { engine.agent with host := engine.agent.host.keepAlive })
      (generation : later.generation = engine.generation)
  | works (work : Media → Media)
      (agent : later.agent = { engine.agent with
        host := { engine.agent.host with media := work engine.agent.host.media } })
      (generation : later.generation = engine.generation)
  | drops (now : Time) (ends : engine.Ends turn)
      (agent : later.agent =
        UserAgent.step { engine.agent with host := engine.agent.host.reset } (.transportDown now))
  | connects (down : engine.link = .down)
      (agent : later.agent = { engine.agent with host := engine.agent.host.reset } ∨
        later.agent = { engine.agent with host := engine.agent.host.reset.connect })

namespace TlsEngine

theorem nextEvent_deed (now : Time) (engine : TlsEngine Media) :
    Deed engine (.event now) (engine.nextEvent now) := by
  unfold nextEvent
  split
  next event rest idle batch =>
    split
    · exact .rests rfl rfl
    next own =>
      unfold handle
      split
      · exact .operates (.transportUp now) rfl rfl
      · exact .rests rfl rfl
      next closed =>
        obtain ⟨generation, kind⟩ := event
        obtain rfl : generation = engine.generation := not_not.mp own
        obtain rfl : kind = .closed := closed
        exact .drops now ⟨idle, rest, batch⟩ rfl
  · exact .rests rfl rfl

theorem nextMessage_deed (now : Time) (engine : TlsEngine Media) :
    Deed engine (.message now) (engine.nextMessage now) := by
  unfold nextMessage
  split
  · exact .rests rfl rfl
  next began reading =>
    dsimp only
    split
    next message _ => exact .operates (.message message now) rfl rfl
    next drained =>
      split
      next failed => exact .drops began ⟨reading ▸ rfl, drained, failed⟩ rfl
      · exact .rests rfl rfl

theorem step_deed (engine : TlsEngine Media) (turn : Turn Media) :
    Deed engine turn (engine.step turn) := by
  have idle {turn : Turn Media} : Deed engine turn engine := .rests rfl rfl
  cases turn with
  | callback event =>
    show Deed engine _ (engine.post event)
    unfold post
    split
    · exact .rests rfl rfl
    · exact idle
  | command op =>
    unfold step
    dsimp only
    split
    · exact .operates op rfl rfl
    · exact idle
  | deliver => exact .operates .takeEvents rfl rfl
  | drain =>
    unfold step
    dsimp only
    split
    · exact .rests rfl rfl
    · exact idle
  | event now => exact nextEvent_deed now engine
  | message now => exact nextMessage_deed now engine
  | relink now =>
    unfold step
    dsimp only
    split
    next due =>
      rw [Bool.and_eq_true] at due
      split
      next up => exact .drops now ⟨due.1, due.2, up⟩ rfl
      · exact .rests rfl rfl
    · exact idle
  | connect now made =>
    unfold step
    dsimp only
    split
    next due =>
      unfold connectLink
      split
      · exact .connects due.2.1 (Or.inr rfl)
      · exact .connects due.2.1 (Or.inl rfl)
    · exact idle
  | keepAlive now =>
    unfold step
    dsimp only
    split
    · exact .keepsAlive rfl rfl
    · exact idle
  | timer now =>
    unfold step
    dsimp only
    split
    · exact .operates (.timer now) rfl rfl
    · exact idle
  | media work => exact .works work rfl rfl

/-- A connection at its end is dropped. -/
theorem step_ends {engine : TlsEngine Media} {turn : Turn Media} (ends : engine.Ends turn) :
    ∃ now, (engine.step turn).agent =
      UserAgent.step { engine.agent with host := engine.agent.host.reset }
        (.transportDown now) := by
  cases turn with
  | event now =>
    obtain ⟨idle, rest, batch⟩ := ends
    refine ⟨now, ?_⟩
    show (engine.nextEvent now).agent = _
    simp only [nextEvent, idle, batch, ne_eq, not_true_eq_false, if_false]
    rfl
  | message now =>
    obtain ⟨reading, drained, failed⟩ := ends
    obtain ⟨began, reading⟩ := Option.isSome_iff_exists.mp reading
    refine ⟨began, ?_⟩
    show (engine.nextMessage now).agent = _
    simp only [nextMessage, reading, drained, failed, if_true]
    rfl
  | relink now =>
    obtain ⟨drained, due, up⟩ := ends
    refine ⟨now, ?_⟩
    simp only [step, drained, due, up, Bool.and_self, if_true]
    rfl
  | _ => exact ends.elim

end TlsEngine

/-! ### Requests on the wire -/

/-- The wire carries what the agent sent last, in order. -/
structure UserAgent.Flows (agent : UserAgent (Wire Media)) : Prop where
  carries : agent.host.Carries
  order : messagesOf agent.host.transfers <:+ agent.log.filterMap (Action.sent agent.config)

/-- Every pending request is among what the wire carries. -/
structure UserAgent.Carried (agent : UserAgent (Wire Media)) : Prop extends agent.Flows where
  pending : ∀ transaction ∈ agent.transactions.values,
    transaction.packet.bytes agent.config ∈ messagesOf agent.host.transfers

section Agents

variable {agent : UserAgent (Wire Media)}

theorem UserAgent.step_messages (flows : agent.Flows) (op : Op) :
    (agent.step op).config = agent.config ∧ (agent.step op).host.Carries ∧
      messagesOf (agent.step op).host.transfers = messagesOf agent.host.transfers ++
        (agent.asked op).filterMap (Action.sent agent.config) := by
  obtain ⟨config, drives⟩ := agent.step_drives op
  exact ⟨config, drives.carries flows.carries⟩

theorem UserAgent.Flows.step (flows : agent.Flows) (op : Op) : (agent.step op).Flows := by
  obtain ⟨config, carries, messages⟩ := step_messages flows op
  refine ⟨carries, ?_⟩
  rw [config, messages, agent.step_asked op, filterMap_append]
  exact (suffix_append_inj_of_length_eq rfl).mpr ⟨flows.order, rfl⟩

theorem UserAgent.Carried.step (carried : agent.Carried) (op : Op) : (agent.step op).Carried := by
  obtain ⟨config, -, messages⟩ := step_messages carried.toFlows op
  refine ⟨carried.toFlows.step op, fun transaction pending => ?_⟩
  rw [config, messages]
  rcases agent.step_held op transaction pending with ⟨old, before, same⟩ | sent
  · rw [← same]
    exact mem_append_left _ (carried.pending old before)
  · exact mem_append_right _ (mem_filterMap.mpr ⟨_, sent, rfl⟩)

omit [UserAgentHost Media] in
theorem UserAgent.Flows.reset (flows : agent.Flows) :
    UserAgent.Flows { agent with host := agent.host.reset } := by
  refine ⟨flows.carries.reset, ?_⟩
  show messagesOf (if agent.host.connection.isSome then [] else agent.host.transfers) <:+ _
  split
  · exact nil_suffix
  · exact flows.order

end Agents

namespace TlsEngine

variable {engine later : TlsEngine Media} {turn : Turn Media}

omit [UserAgentHost Media] in
theorem Sound.absent (sound : engine.Sound) (down : engine.link = .down) :
    engine.agent.host.connection = none := by
  have absent : ¬ engine.connection.isSome = true := fun present => sound.link.mpr present down
  exact Option.not_isSome_iff_eq_none.mp absent

theorem Deed.carried (deed : Deed engine turn later) (sound : engine.Sound)
    (carried : engine.agent.Carried) : later.agent.Carried := by
  cases deed with
  | rests agent => exact agent ▸ carried
  | operates op agent => exact agent ▸ carried.step op
  | keepsAlive agent =>
    obtain ⟨carries, same⟩ := carried.carries.keepAlive
    rw [agent]
    exact ⟨⟨carries, same ▸ carried.order⟩, same ▸ carried.pending⟩
  | works work agent =>
    rw [agent]
    exact ⟨⟨{ carried.carries with }, carried.order⟩, carried.pending⟩
  | drops now _ agent =>
    rw [agent]
    refine ⟨carried.toFlows.reset.step (.transportDown now), fun transaction pending => ?_⟩
    have empty := onTransportDown_transactions
      { engine.agent with host := engine.agent.host.reset } now
    replace pending : transaction ∈ (onTransportDown now
      { engine.agent with host := engine.agent.host.reset }).transactions.values := pending
    rw [empty] at pending
    exact absurd pending not_mem_nil
  | connects down agent =>
    have absent := sound.absent down
    rw [Wire.reset_eq absent] at agent
    rcases agent with same | connected
    · rw [same]
      exact carried
    · rw [connected]
      exact ⟨⟨carried.carries.connect absent, carried.order⟩, carried.pending⟩

/-- What is promised of requests. Each pending one was sent and, in the order of sending, handed to
the connection there is, or left waiting for one, or refused. A turn that does not find the
connection at its end leaves it; one that does drops it, and then every transaction ends in that
turn, without a response. -/
structure NoneWaits (engine : TlsEngine Media) : Prop where
  carried : engine.agent.Carried
  kept : ∀ turn, engine.connection.isSome = true → ¬ engine.Ends turn →
    (engine.step turn).connection.isSome = true ∧
      (engine.step turn).generation = engine.generation
  dropped : ∀ turn, engine.Ends turn → (engine.step turn).connection = none ∧
    ∃ lost : Traced (Wire Media),
      (∃ now, lost = Traced.step
        { agent := { engine.agent with host := engine.agent.host.reset }, trace := [] }
        (.transportDown now)) ∧
      (engine.step turn).agent = lost.agent ∧ lost.agent.transactions = OrderedMap.empty ∧
      ∀ transaction ∈ engine.agent.transactions.values,
        .finishes transaction.ticket none false ∈ lost.trace

theorem Deed.disconnected {now : Time}
    (agent : later.agent =
      UserAgent.step { engine.agent with host := engine.agent.host.reset } (.transportDown now)) :
    later.connection = none := by
  have same := (step_drives { engine.agent with host := engine.agent.host.reset }
    (.transportDown now)).2.connected
  unfold connection
  rw [agent]
  exact Option.not_isSome_iff_eq_none.mp (ne_true_of_eq_false same)

theorem Deed.connected (deed : Deed engine turn later) :
    engine.Ends turn ∨ engine.link = .down ∨
      later.connection.isSome = engine.connection.isSome ∧
        later.generation = engine.generation := by
  unfold connection
  cases deed with
  | rests agent generation => exact Or.inr (Or.inr ⟨agent ▸ rfl, generation⟩)
  | operates op agent generation =>
    exact Or.inr (Or.inr ⟨agent ▸ (engine.agent.step_drives op).2.connected, generation⟩)
  | keepsAlive agent generation =>
    exact Or.inr (Or.inr ⟨agent ▸ engine.agent.host.keepAlive_connected, generation⟩)
  | works work agent generation => exact Or.inr (Or.inr ⟨agent ▸ rfl, generation⟩)
  | drops _ ends => exact Or.inl ends
  | connects down => exact Or.inr (Or.inl down)

theorem Sound.noneWaits (sound : engine.Sound) (carried : engine.agent.Carried) :
    engine.NoneWaits := by
  refine ⟨carried, fun turn present goes => ?_, fun turn ends => ?_⟩
  · rcases (engine.step_deed turn).connected with ends | down | ⟨same, generation⟩
    · exact absurd ends goes
    · exact absurd down (sound.link.mpr present)
    · exact ⟨same.trans present, generation⟩
  · obtain ⟨now, agent⟩ := step_ends ends
    refine ⟨Deed.disconnected agent, _, ⟨now, rfl⟩, ?_, ?_, fun transaction pending => ?_⟩
    · rw [Traced.step_agent]
      exact agent
    · rw [Traced.step_agent]
      exact onTransportDown_transactions _ now
    · exact Traced.onTransportDown_finishes now
        { agent := { engine.agent with host := engine.agent.host.reset }, trace := [] } pending

/-- No request waits on a dead connection, in every run. -/
theorem none_waits (config : UserAgentConfig) (media : Media) (random : Random)
    (turns : List (Turn Media)) :
    (run step (create config media random) turns).NoneWaits := by
  let invariant (engine : TlsEngine Media) : Prop := engine.Sound ∧ engine.agent.Carried
  have initial : invariant (create config media random) := by
    refine ⟨.create config media random, ⟨⟨?_, nil_suffix⟩, ?_⟩⟩
    · refine ⟨nofun, fun _ => ⟨rfl, ?_⟩, .of_forall ?_⟩
      · exact fun _ missing => absurd missing not_mem_nil
      · exact fun _ missing => absurd missing not_mem_nil
    · exact fun _ missing => absurd missing not_mem_nil
  have both : invariant (run step (create config media random) turns) :=
    loop_keeps invariant turns (fun engine turn _ both =>
      ⟨both.1.step turn, (engine.step_deed turn).carried both.1 both.2⟩) initial
  exact both.1.noneWaits both.2

end TlsEngine

end Turns

end KetPhone.Core
