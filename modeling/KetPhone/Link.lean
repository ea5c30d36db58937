/-
This file models the signalling half of `core/engine.cpp` over TLS: the connection
and what waits for one, the link with its reconnects and keep-alives, and the events
that a connection queues from its own thread for the network thread. Only the inbox
is shared, so the network thread's work is cut into turns between which anything may
be queued: swapping the inbox out, handling one event of it, reading one message from
the framer, and what the loop does in between. Commands run in turns of their own,
since the application may also give them from inside its event callback.

The state keeps some of its past beside what the source keeps: what was queued, which
generations had a connection, what the framer was given since it was reset, and what
became of each string sent since the last connection was dropped.
-/

import KetPhone.StreamFramer
import KetPhone.UserAgent.Transacting

namespace KetPhone.Core

open Sip List

variable {Media : Type}

/-! ### Signalling -/

/-- What may wait for a connection. -/
def kPendingLimit : Nat := 65536

/-- What became of a string that was to be sent. -/
inductive Transfer where
  /-- Handed to the connection. -/
  | handed (message : Bytes)
  /-- Appended to what waits for a connection. -/
  | queued (message : Bytes)
  /-- Dropped, since too much waits for a connection. -/
  | refused (message : Bytes)
  | keepAlive
  deriving DecidableEq

/-- The signalling half of the engine, over any media half. A connection is the strings that were
handed to it. -/
structure Wire (Media : Type) where
  connection : Option (List Bytes) := none
  pending : Bytes := []
  media : Media
  /-- Since the last connection was dropped. -/
  transfers : List Transfer := []

namespace Wire

def sendSip (message : Bytes) (wire : Wire Media) : Wire Media :=
  match wire.connection with
  | some sent =>
    { wire with
      connection := some (sent ++ [message])
      transfers := wire.transfers ++ [.handed message] }
  | none =>
    if wire.pending.length + message.length ≤ kPendingLimit then
      { wire with
        pending := wire.pending ++ message
        transfers := wire.transfers ++ [.queued message] }
    else { wire with transfers := wire.transfers ++ [.refused message] }

/-- `connection_.reset()`. -/
def reset (wire : Wire Media) : Wire Media :=
  { wire with
    connection := none
    transfers := if wire.connection.isSome then [] else wire.transfers }

/-- A new connection gets what waits for it. -/
def connect (wire : Wire Media) : Wire Media :=
  { wire with
    connection := some (if wire.pending = [] then [] else [wire.pending])
    pending := [] }

/-- The double line end that keeps the connection alive. -/
def keepAlive (wire : Wire Media) : Wire Media :=
  match wire.connection with
  | some sent =>
    { wire with
      connection := some (sent ++ [ascii "\r\n\r\n"])
      transfers := wire.transfers ++ [.keepAlive] }
  | none => wire

theorem keepAlive_connected (wire : Wire Media) :
    wire.keepAlive.connection.isSome = wire.connection.isSome := by
  unfold keepAlive
  split
  next sent present => rw [present]; rfl
  · rfl

instance [UserAgentHost Media] : UserAgentHost (Wire Media) where
  sendSip := sendSip
  openMedia wire :=
    let (port, media) := UserAgentHost.openMedia wire.media
    (port, { wire with media })
  startMedia remote wire :=
    let (started, media) := UserAgentHost.startMedia remote wire.media
    (started, { wire with media })
  closeMedia wire := { wire with media := UserAgentHost.closeMedia wire.media }
  allocateCallId wire :=
    let (id, media) := UserAgentHost.allocateCallId wire.media
    (id, { wire with media })

end Wire

/-! ### The link -/

def kKeepAlive : Time := seconds 30

def kReconnectFirst : Time := seconds 1

def kReconnectMost : Time := seconds 30

inductive LinkEvent.Kind where
  | connected
  | data (bytes : Bytes)
  | closed
  deriving DecidableEq

/-- A callback of a connection, with the generation that its listener was made for. -/
structure LinkEvent where
  generation : Nat
  kind : LinkEvent.Kind
  deriving DecidableEq

inductive Link where
  | down
  | connecting
  | up
  deriving DecidableEq, Repr

structure TlsEngine (Media : Type) where
  /-- The user agent, whose host has the connection and what waits for one. -/
  agent : UserAgent (Wire Media)
  generation : Nat := 0
  link : Link := .down
  reconnectAt : Time := 0
  backoff : Time := kReconnectFirst
  keepaliveAt : Time := 0
  relink : Bool := false
  framer : StreamFramer := {}
  inbox : List LinkEvent := []
  /-- The events that `drain_link` has taken from the inbox and not handled yet. -/
  batch : List LinkEvent := []
  /-- When the event came whose messages are being read from the framer. -/
  reading : Option Time := none
  /-- All that connections ever queued. -/
  posted : List LinkEvent := []
  /-- The generations that had a connection. -/
  opened : List Nat := []
  /-- What the framer did since it was reset. -/
  framing : List StreamFramer.Op := []

namespace TlsEngine

def create (config : UserAgentConfig) (media : Media) (random : Random) : TlsEngine Media :=
  { agent := UserAgent.create config { media } random }

def connection (engine : TlsEngine Media) : Option (List Bytes) := engine.agent.host.connection

/-- A change of the signalling half alone. -/
def onWire (change : Wire Media → Wire Media) (engine : TlsEngine Media) : TlsEngine Media :=
  { engine with agent := { engine.agent with host := change engine.agent.host } }

/-- `LinkListener`: only a connection has callbacks. -/
def post (event : LinkEvent) (engine : TlsEngine Media) : TlsEngine Media :=
  if event.generation ∈ engine.opened then
    { engine with inbox := engine.inbox ++ [event], posted := engine.posted ++ [event] }
  else engine

def scheduleReconnect (now : Time) (engine : TlsEngine Media) : TlsEngine Media :=
  { engine with
    link := .down
    reconnectAt := now + engine.backoff
    backoff := min (engine.backoff * 2) kReconnectMost }

/-- No connection, a new generation and a new framer, as `connect_link` and `drop_link` begin. -/
def unlinked (engine : TlsEngine Media) : TlsEngine Media :=
  { engine.onWire Wire.reset with
    generation := engine.generation + 1
    framer := engine.framer.reset
    framing := [] }

/-- Connects; `connect_tls` may give nothing. -/
def connectLink (made : Bool) (now : Time) (engine : TlsEngine Media) : TlsEngine Media :=
  if made then
    { engine.unlinked.onWire Wire.connect with
      link := .connecting
      opened := engine.opened ++ [engine.unlinked.generation] }
  else engine.unlinked.scheduleReconnect now

/-- The agent changes and nothing else. -/
def withAgent (agent : UserAgent (Wire Media)) (engine : TlsEngine Media) : TlsEngine Media :=
  { engine with agent }

/-- One operation of the user agent. -/
def operate [UserAgentHost Media] (op : Op) (engine : TlsEngine Media) : TlsEngine Media :=
  engine.withAgent (engine.agent.step op)

/-- Whether an event means that the connection is dead without having noticed. -/
def Unanswered (event : Event) : Bool := event.kind = .registration ∧ event.status = 408

variable [UserAgentHost Media]

def dropLink (now : Time) (engine : TlsEngine Media) : TlsEngine Media :=
  (engine.unlinked.scheduleReconnect now).operate (.transportDown now)

/-- Takes the events of the user agent once, as `deliver_events` does until there are none. -/
def deliverEvents (engine : TlsEngine Media) : TlsEngine Media :=
  { engine.operate .takeEvents with
    relink := engine.relink ||
      (engine.link = .up && engine.agent.takeEvents.1.any Unanswered) }

/-- What `drain_link` does with an event of the current generation. -/
def handle (now : Time) (event : LinkEvent) (engine : TlsEngine Media) : TlsEngine Media :=
  match event.kind with
  | .connected =>
    { engine with
      link := .up
      backoff := kReconnectFirst
      keepaliveAt := now + kKeepAlive }.operate (.transportUp now)
  | .data bytes =>
    { engine with
      framer := engine.framer.push bytes
      framing := engine.framing ++ [.push bytes]
      reading := some now }
  | .closed => engine.dropLink now

/-- The next round of the loop in `drain_link`. -/
def nextEvent (now : Time) (engine : TlsEngine Media) : TlsEngine Media :=
  match engine.reading, engine.batch with
  | none, event :: rest =>
    if event.generation ≠ engine.generation then { engine with batch := rest }
    else { engine with batch := rest }.handle now event
  | _, _ => engine

/-- The next round of the loop that reads messages; after the last one the framer may have
failed. -/
def nextMessage (now : Time) (engine : TlsEngine Media) : TlsEngine Media :=
  match engine.reading with
  | none => engine
  | some began =>
    let (message, framer) := engine.framer.next
    let framed : TlsEngine Media := { engine with framer, framing := engine.framing ++ [.next] }
    match message with
    | some message => framed.operate (.message message now)
    | none =>
      let done := { framed with reading := none }
      if framer.failed then done.dropLink began else done

end TlsEngine

/-- The commands of the application. -/
def Op.isCommand : Op → Bool
  | .startRegistration _ => true
  | .stopRegistration _ => true
  | .call _ _ _ => true
  | .answer _ _ => true
  | .reject _ _ => true
  | .hangup _ _ => true
  | .shutdown _ => true
  | _ => false

/-- What happens to the engine, one turn at a time. -/
inductive TlsEngine.Turn (Media : Type) where
  | callback (event : LinkEvent)
  | command (op : Op)
  | deliver
  | drain
  | event (now : Time)
  | message (now : Time)
  | relink (now : Time)
  | connect (now : Time) (made : Bool)
  | keepAlive (now : Time)
  | timer (now : Time)
  /-- RTP and the allocation of call ids. -/
  | media (work : Media → Media)

namespace TlsEngine

/-- `drain_link` is over. -/
def drained (engine : TlsEngine Media) : Bool := engine.batch.isEmpty && engine.reading.isNone

variable [UserAgentHost Media]

def step (engine : TlsEngine Media) : Turn Media → TlsEngine Media
  | .callback event => engine.post event
  | .command op => if op.isCommand then engine.operate op else engine
  | .deliver => engine.deliverEvents
  | .drain => if engine.drained then { engine with batch := engine.inbox, inbox := [] } else engine
  | .event now => engine.nextEvent now
  | .message now => engine.nextMessage now
  | .relink now =>
    if engine.drained && engine.relink then
      let done := { engine with relink := false }
      if engine.link = .up then done.dropLink now else done
    else engine
  | .connect now made =>
    if engine.drained ∧ engine.link = .down ∧ engine.reconnectAt ≤ now then
      engine.connectLink made now
    else engine
  | .keepAlive now =>
    if engine.drained ∧ engine.link = .up ∧ engine.keepaliveAt ≤ now then
      { engine.onWire Wire.keepAlive with keepaliveAt := now + kKeepAlive }
    else engine
  | .timer now => if engine.drained then engine.operate (.timer now) else engine
  | .media work => engine.onWire fun wire => { wire with media := work wire.media }

end TlsEngine

/-! ### What the framer got -/

/-- What was pushed into a framer. -/
def pushedIn (ops : List StreamFramer.Op) : Bytes :=
  ops.flatMap fun op => match op with
    | .push bytes => bytes
    | _ => []

/-- What was received on the connection of a generation. -/
def receivedOn (generation : Nat) (events : List LinkEvent) : Bytes :=
  events.flatMap fun event =>
    if event.generation = generation then
      match event.kind with
      | .data bytes => bytes
      | _ => []
    else []

theorem pushedIn_append (ops more : List StreamFramer.Op) :
    pushedIn (ops ++ more) = pushedIn ops ++ pushedIn more :=
  flatMap_append

theorem receivedOn_append (generation : Nat) (events more : List LinkEvent) :
    receivedOn generation (events ++ more) =
      receivedOn generation events ++ receivedOn generation more :=
  flatMap_append

theorem receivedOn_singleton {generation : Nat} {event : LinkEvent}
    (own : event.generation = generation) :
    receivedOn generation [event] = match event.kind with
      | .data bytes => bytes
      | _ => [] := by
  unfold receivedOn
  rw [flatMap_singleton, if_pos own]

theorem receivedOn_eq_nil {generation : Nat} {events : List LinkEvent}
    (others : ∀ event ∈ events, event.generation ≠ generation) :
    receivedOn generation events = [] :=
  flatMap_eq_nil_iff.mpr fun event member => if_neg (others event member)

/-! ### The link is sound -/

namespace TlsEngine

/-- What the link, the connection, the queues and the framer have to do with each other. The
connections are told apart by their generations; of what they queued the network thread has taken a
part, and the framer got what that part says was received on the connection there is. -/
structure Sound (engine : TlsEngine Media) : Prop where
  link : engine.link ≠ .down ↔ engine.connection.isSome = true
  apart : engine.opened.Nodup
  below : ∀ generation ∈ engine.opened, generation ≤ engine.generation
  current : engine.connection.isSome = true ↔ engine.generation ∈ engine.opened
  known : ∀ event ∈ engine.posted, event.generation ∈ engine.opened
  taken : ∃ past, engine.posted = past ++ engine.batch ++ engine.inbox ∧
    pushedIn engine.framing = receivedOn engine.generation past
  framed : engine.framer = engine.framing.foldl (fun framer op => (framer.step op).2) {}

namespace Sound

variable {engine : TlsEngine Media}

theorem create (config : UserAgentConfig) (media : Media) (random : Random) :
    (TlsEngine.create config media random).Sound where
  link := by simp [TlsEngine.create, connection, UserAgent.create]
  apart := nodup_nil
  below := fun _ missing => nomatch missing
  current := by simp [TlsEngine.create, connection, UserAgent.create]
  known := fun _ missing => nomatch missing
  taken := ⟨[], rfl, rfl⟩
  framed := rfl

theorem withAgent (sound : engine.Sound) {agent : UserAgent (Wire Media)}
    (same : agent.host.connection.isSome = engine.connection.isSome) :
    (engine.withAgent agent).Sound :=
  { sound with
    link := sound.link.trans (by rw [← same]; rfl)
    current := (Bool.eq_iff_iff.mp same).trans sound.current }

theorem others (sound : engine.Sound) :
    ∀ event ∈ engine.posted, event.generation ≠ engine.generation + 1 := fun event member same =>
  absurd (sound.below _ (sound.known event member)) (by omega)

theorem unlinked_fresh (sound : engine.Sound) : engine.generation + 1 ∉ engine.opened :=
  fun member => absurd (sound.below _ member) (by omega)

theorem unlinked (sound : engine.Sound) (now : Time) :
    (engine.unlinked.scheduleReconnect now).Sound where
  link := by simp [scheduleReconnect, TlsEngine.unlinked, onWire, connection, Wire.reset]
  apart := sound.apart
  below := fun generation member => Nat.le_succ_of_le (sound.below generation member)
  current := by
    have fresh := sound.unlinked_fresh
    simp [scheduleReconnect, TlsEngine.unlinked, onWire, connection, Wire.reset, fresh]
  known := sound.known
  taken := by
    obtain ⟨past, posted, -⟩ := sound.taken
    refine ⟨past, posted, (receivedOn_eq_nil fun event member => sound.others event ?_).symm⟩
    rw [posted, append_assoc]
    exact mem_append_left _ member
  framed := rfl

theorem connectLink (sound : engine.Sound) (made : Bool) (now : Time) :
    (engine.connectLink made now).Sound := by
  unfold TlsEngine.connectLink
  split
  · have free := sound.unlinked now
    refine ⟨by simp [onWire, connection, Wire.connect], ?_, ?_, ?_, ?_, free.taken, free.framed⟩
    · exact nodup_append'.mpr ⟨sound.apart, nodup_singleton _,
        disjoint_singleton.mpr sound.unlinked_fresh⟩
    · intro generation member
      rcases mem_append.mp member with old | new
      · exact free.below generation old
      · exact le_of_eq (mem_singleton.mp new)
    · simp [onWire, connection, Wire.connect, TlsEngine.unlinked]
    · exact fun event member => mem_append_left _ (sound.known event member)
  · exact sound.unlinked now

theorem post (sound : engine.Sound) (event : LinkEvent) : (engine.post event).Sound := by
  unfold TlsEngine.post
  split
  next own =>
    refine { sound with known := fun other member => ?_, taken := ?_ }
    · rcases mem_append.mp member with old | new
      · exact sound.known other old
      · rw [mem_singleton.mp new]
        exact own
    · obtain ⟨past, posted, pushed⟩ := sound.taken
      exact ⟨past, by rw [posted, append_assoc], pushed⟩
  · exact sound

theorem connected (sound : engine.Sound) {event : LinkEvent} {rest : List LinkEvent}
    (first : engine.batch = event :: rest) (own : event.generation = engine.generation) :
    engine.connection.isSome = true := by
  obtain ⟨past, posted, -⟩ := sound.taken
  refine sound.current.mpr (own ▸ sound.known event ?_)
  rw [posted, first]
  simp

theorem take (sound : engine.Sound) {event : LinkEvent} {rest : List LinkEvent}
    (first : engine.batch = event :: rest)
    (silent : receivedOn engine.generation [event] = []) :
    ({ engine with batch := rest } : TlsEngine Media).Sound := by
  refine { sound with taken := ?_ }
  obtain ⟨past, posted, pushed⟩ := sound.taken
  refine ⟨past ++ [event], ?_, ?_⟩
  · rw [posted, first]
    simp
  · show _ = receivedOn engine.generation _
    rw [receivedOn_append, silent, append_nil]
    exact pushed

/-- An event is taken that brings the framer some bytes. -/
theorem push (sound : engine.Sound) {bytes : Bytes} {rest : List LinkEvent}
    (first : engine.batch = { generation := engine.generation, kind := .data bytes } :: rest)
    (now : Time) :
    ({ engine with
      batch := rest
      framer := engine.framer.push bytes
      framing := engine.framing ++ [.push bytes]
      reading := some now } : TlsEngine Media).Sound := by
  refine { sound with taken := ?_, framed := ?_ }
  · obtain ⟨past, posted, pushed⟩ := sound.taken
    refine ⟨past ++ [{ generation := engine.generation, kind := .data bytes }], ?_, ?_⟩
    · rw [posted, first]
      simp
    · have brought : receivedOn engine.generation
          [{ generation := engine.generation, kind := .data bytes }] = bytes :=
        receivedOn_singleton rfl
      show pushedIn (engine.framing ++ [.push bytes]) = receivedOn engine.generation _
      rw [receivedOn_append, brought, pushedIn_append, pushed]
      exact congrArg _ (append_nil bytes)
  · rw [foldl_concat, ← sound.framed]
    rfl

theorem next (sound : engine.Sound) (reading : Option Time) :
    ({ engine with
      framer := engine.framer.next.2
      framing := engine.framing ++ [.next]
      reading } : TlsEngine Media).Sound := by
  refine { sound with taken := ?_, framed := ?_ }
  · obtain ⟨past, posted, pushed⟩ := sound.taken
    refine ⟨past, posted, ?_⟩
    rw [pushedIn_append, pushed]
    exact append_nil _
  · rw [foldl_concat, ← sound.framed]
    rfl

end Sound

end TlsEngine

/-- What is asked of the host opens and closes no connection. -/
theorem Drives.connected [UserAgentHost Media] {config : UserAgentConfig} {wire later : Wire Media}
    {actions : List Action} (drives : Drives config wire actions later) :
    later.connection.isSome = wire.connection.isSome := by
  induction drives with
  | refl => rfl
  | @sendSip _ host _ packet hypothesis =>
    rw [← hypothesis]
    show (host.sendSip (packet.bytes config)).connection.isSome = _
    unfold Wire.sendSip
    split
    next sent present => rw [present]; rfl
    · split <;> rfl
  | openMedia _ hypothesis => exact hypothesis
  | startMedia _ _ hypothesis => exact hypothesis
  | closeMedia _ hypothesis => exact hypothesis
  | emit _ _ hypothesis => exact hypothesis
  | begin _ _ _ _ hypothesis => exact hypothesis
  | allocate _ hypothesis => exact hypothesis

namespace TlsEngine

variable [UserAgentHost Media] {engine : TlsEngine Media}

namespace Sound

theorem operate (sound : engine.Sound) (op : Op) : (engine.operate op).Sound :=
  sound.withAgent (engine.agent.step_drives op).2.connected

theorem dropLink (sound : engine.Sound) (now : Time) : (engine.dropLink now).Sound :=
  (sound.unlinked now).operate (.transportDown now)

theorem handle (sound : engine.Sound) {event : LinkEvent} {rest : List LinkEvent}
    (first : engine.batch = event :: rest) (own : event.generation = engine.generation)
    (now : Time) : ({ engine with batch := rest }.handle now event : TlsEngine Media).Sound := by
  have connected := sound.connected first own
  obtain ⟨generation, kind⟩ := event
  cases own
  cases kind with
  | connected =>
    have taken := sound.take first (receivedOn_singleton rfl)
    have up : ({ engine with
        batch := rest
        link := .up
        backoff := kReconnectFirst
        keepaliveAt := now + kKeepAlive } : TlsEngine Media).Sound :=
      { taken with link := ⟨fun _ => connected, fun _ => nofun⟩ }
    exact up.operate (.transportUp now)
  | data bytes => exact sound.push first now
  | closed => exact (sound.take first (receivedOn_singleton rfl)).dropLink now

theorem nextEvent (sound : engine.Sound) (now : Time) : (engine.nextEvent now).Sound := by
  unfold TlsEngine.nextEvent
  split
  next event rest _ first =>
    split
    next stale =>
      refine sound.take first (receivedOn_eq_nil fun other member => ?_)
      rw [mem_singleton.mp member]
      exact stale
    next own => exact sound.handle first (not_not.mp own) now
  · exact sound

theorem nextMessage (sound : engine.Sound) (now : Time) : (engine.nextMessage now).Sound := by
  unfold TlsEngine.nextMessage
  split
  · exact sound
  next began _ =>
    dsimp only
    split
    next message _ => exact (sound.next engine.reading).operate (.message message now)
    · split
      · exact (sound.next none).dropLink began
      · exact sound.next none

theorem step (sound : engine.Sound) (turn : Turn Media) : (engine.step turn).Sound := by
  cases turn with
  | callback event => exact sound.post event
  | command op =>
    show (if op.isCommand then engine.operate op else engine).Sound
    split
    · exact sound.operate op
    · exact sound
  | deliver => exact { sound.operate .takeEvents with }
  | drain =>
    unfold TlsEngine.step
    dsimp only
    split
    next lapsed =>
      refine { sound with taken := ?_ }
      obtain ⟨past, posted, pushed⟩ := sound.taken
      have empty : engine.batch = [] := by
        unfold drained at lapsed
        simp only [Bool.and_eq_true, List.isEmpty_iff] at lapsed
        exact lapsed.1
      exact ⟨past, by rw [posted, empty]; simp, pushed⟩
    · exact sound
  | event now => exact sound.nextEvent now
  | message now => exact sound.nextMessage now
  | relink now =>
    unfold TlsEngine.step
    dsimp only
    split
    · have done : ({ engine with relink := false } : TlsEngine Media).Sound := { sound with }
      split
      · exact done.dropLink now
      · exact done
    · exact sound
  | connect now made =>
    unfold TlsEngine.step
    dsimp only
    split
    · exact sound.connectLink made now
    · exact sound
  | keepAlive now =>
    unfold TlsEngine.step
    dsimp only
    split
    · exact { sound.withAgent engine.agent.host.keepAlive_connected with }
    · exact sound
  | timer now =>
    unfold TlsEngine.step
    dsimp only
    split
    · exact sound.operate (.timer now)
    · exact sound
  | media work => exact sound.withAgent rfl

end Sound

/-- What is promised of the link: there is a connection exactly when the link is not down; each
connection has a generation of its own; an event that is not of the connection there is changes
nothing when its turn comes; and the framer, since it was reset, got a part of what was received on
the connection there is, from its beginning on. -/
structure LinkSound (engine : TlsEngine Media) : Prop where
  link : engine.link = .connecting ∨ engine.link = .up ↔ engine.connection.isSome = true
  apart : engine.opened.Nodup
  current : engine.connection.isSome = true ↔ engine.generation ∈ engine.opened
  stale : ∀ event rest now, engine.reading = none → engine.batch = event :: rest →
    (engine.connection = none ∨ event.generation ≠ engine.generation) →
      engine.step (.event now) = { engine with batch := rest }
  framed : engine.framer = engine.framing.foldl (fun framer op => (framer.step op).2) {}
  received : pushedIn engine.framing <+: receivedOn engine.generation engine.posted

theorem Sound.linkSound (sound : engine.Sound) : engine.LinkSound where
  link := by
    rw [← sound.link]
    cases engine.link <;> simp
  apart := sound.apart
  current := sound.current
  stale := by
    intro event rest now idle first dead
    have other : event.generation ≠ engine.generation := by
      rcases dead with gone | other
      · intro own
        have connected := sound.connected first own
        rw [gone] at connected
        cases connected
      · exact other
    show engine.nextEvent now = _
    unfold TlsEngine.nextEvent
    simp only [idle, first]
    exact if_pos other
  framed := sound.framed
  received := by
    obtain ⟨past, posted, pushed⟩ := sound.taken
    rw [posted, pushed, append_assoc, receivedOn_append]
    exact prefix_append _ _

/-- The link state machine is sound, in every run: whatever connections queue and when, and whatever
commands, relinks and connections that cannot be made come in between. -/
theorem link_sound (config : UserAgentConfig) (media : Media) (random : Random)
    (turns : List (Turn Media)) :
    (run step (create config media random) turns).LinkSound := by
  have sound : (run step (create config media random) turns).Sound :=
    loop_keeps Sound turns (fun _ turn _ sound => sound.step turn) (.create config media random)
  exact sound.linkSound

end TlsEngine

end KetPhone.Core
