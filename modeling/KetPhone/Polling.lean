/-
This file models one pass of the loop in `core/engine.cpp` by what it does with its
descriptors: which of them it polls and what it reads from each. The wake pipe and
the SIP socket are read whenever they are polled. The RTP socket is polled as soon as
it is open, which for a call of this side is before the far end has answered, but it
is read only while media is active. What arrives on it before that stays where it is,
and poll returns at once for it until the call is answered or ends.

Whatever the commands, the connection and the messages of a pass are, the agent does
nothing to the RTP socket but close it, alone or for a new one, and media that is
active stays so while the socket is open. So a pass leaves none of its descriptors
alone when media is active as poll returns.
-/

import KetPhone.Secure

namespace KetPhone.Core

open List

variable {Session : Type}
variable (media : Engine Session) (reacts : Nat → Time × List Op)

/-! ### Sockets -/

/-- One unit of unread input of a socket. -/
inductive Unread where
  | datagram (bytes : Bytes)
  /-- A pending error, such as an ICMP message on a connected socket leaves. -/
  | failure
  deriving DecidableEq

/-- The media half of the engine with what can be read from its RTP socket. -/
structure Ports (Session : Type) where
  media : Engine Session
  unread : List Unread := []
  /-- How many units have left an RTP socket, read or lost with it. -/
  removed : Nat := 0

namespace Ports

/-- The RTP socket is gone, with what was not read from it. -/
def release (ports : Ports Session) : Ports Session :=
  { ports with unread := [], removed := ports.removed + ports.unread.length }

instance : UserAgentHost (Ports Session) where
  sendSip message ports := { ports with media := UserAgentHost.sendSip message ports.media }
  openMedia ports :=
    let (port, media) := UserAgentHost.openMedia ports.media
    (port, { ports.release with media })
  startMedia remote ports :=
    let (started, media) := UserAgentHost.startMedia remote ports.media
    (started, { ports with media })
  closeMedia ports := { ports.release with media := UserAgentHost.closeMedia ports.media }
  allocateCallId ports :=
    let (id, media) := UserAgentHost.allocateCallId ports.media
    (id, { ports with media })

/-- The loop that reads RTP. An error and an empty datagram end it. -/
def readRtp (media : Engine Session) : List Unread → Engine Session × List Unread
  | [] => (media, [])
  | unit :: rest =>
    if media.rtp.isSome && media.active then
      match unit with
      | .failure => (media, rest)
      | .datagram bytes =>
        if bytes.isEmpty then (media, rest) else readRtp (media.receive bytes).2 rest
    else (media, unit :: rest)

def read (ports : Ports Session) : Ports Session :=
  let (media, unread) := readRtp ports.media ports.unread
  { media, unread, removed := ports.removed + (ports.unread.length - unread.length) }

/-- The packets of the frames that are due. -/
def send (packets : List Bytes) (ports : Ports Session) : Ports Session :=
  { ports with media := packets.foldl (fun media packet => (media.transmit packet).2) ports.media }

end Ports

/-! ### The loop -/

inductive Descriptor where
  | wake
  | sip
  | rtp
  deriving DecidableEq

/-- The network thread's state between two passes. -/
structure NetworkLoop (Session : Type) where
  agent : UserAgent (Ports Session)
  /-- The bytes in the wake pipe. -/
  wake : Nat := 0
  /-- What can be read from the SIP socket, which there is over UDP only. -/
  sip : Option (List Unread)
  /-- How many bytes have been read from the wake pipe, and how many units from the SIP socket. -/
  wakeRead : Nat := 0
  sipRead : Nat := 0

/-- What arrives at the descriptors. -/
structure Arrivals where
  wake : Nat := 0
  sip : List Unread := []
  rtp : List Unread := []

/-- What a pass meets. -/
structure Pass where
  /-- Until poll returns. -/
  polling : Arrivals := {}
  /-- The commands, with what the application does in its event callback. -/
  commands : List Op := []
  /-- What the connection has the agent do, over TLS. -/
  link : List Op := []
  /-- Until the SIP socket is read. -/
  working : Arrivals := {}
  /-- When each message is read from the SIP socket, and what the application does in its
  callback. -/
  reacts : Nat → Time × List Op := fun _ => (0, [])
  /-- Until the RTP socket is read. -/
  reading : Arrivals := {}
  now : Time := 0
  callback : List Op := []
  /-- The packets of the frames that are due. -/
  packets : List Bytes := []

namespace NetworkLoop

/-- Over UDP with a SIP socket, over TLS without one. -/
def create (config : UserAgentConfig) (platform : Platform Session) (mediaFamily : AddressFamily)
    (random : Random) (tls : Bool) : NetworkLoop Session :=
  { agent := UserAgent.create config { media := { platform, mediaFamily } } random
    sip := if tls then none else some [] }

/-- The poll set. -/
def polled (loop : NetworkLoop Session) : List Descriptor :=
  [.wake] ++ (if loop.sip.isSome then [.sip] else []) ++
    (if loop.agent.host.media.rtp.isSome then [.rtp] else [])

/-- The units of unread input of a descriptor. -/
def unread (loop : NetworkLoop Session) : Descriptor → Nat
  | .wake => loop.wake
  | .sip => (loop.sip.getD []).length
  | .rtp => loop.agent.host.unread.length

/-- The units that have been consumed of a descriptor. -/
def consumed (loop : NetworkLoop Session) : Descriptor → Nat
  | .wake => loop.wakeRead
  | .sip => loop.sipRead
  | .rtp => loop.agent.host.removed

/-- A change of the host alone. -/
def onHost (change : Ports Session → Ports Session) (loop : NetworkLoop Session) :
    NetworkLoop Session :=
  { loop with agent := { loop.agent with host := change loop.agent.host } }

/-- Only an open socket gets anything. -/
def arrive (arrivals : Arrivals) (loop : NetworkLoop Session) : NetworkLoop Session :=
  { loop.onHost fun ports =>
      if ports.media.rtp.isSome then { ports with unread := ports.unread ++ arrivals.rtp }
      else ports with
    wake := loop.wake + arrivals.wake
    sip := loop.sip.map (· ++ arrivals.sip) }

def operate (ops : List Op) (loop : NetworkLoop Session) : NetworkLoop Session :=
  { loop with agent := run UserAgent.step loop.agent ops }

/-- `while (read(...) > 0)`: each read takes as much as the buffer holds. -/
def readPipe : Nat → Nat → Nat
  | 0, bytes => bytes
  | reads + 1, bytes => if bytes = 0 then 0 else readPipe reads (bytes - min bytes 65536)

def readWake (loop : NetworkLoop Session) : NetworkLoop Session :=
  let left := readPipe loop.wake loop.wake
  { loop with wake := left, wakeRead := loop.wakeRead + (loop.wake - left) }

/-- The loop that reads SIP. An error and an empty datagram end it. -/
def readMessages (reacts : Nat → Time × List Op) :
    Nat → UserAgent (Ports Session) → List Unread → UserAgent (Ports Session) × List Unread
  | _, agent, [] => (agent, [])
  | _, agent, .failure :: rest => (agent, rest)
  | count, agent, .datagram bytes :: rest =>
    if bytes.isEmpty then (agent, rest)
    else
      let (now, callback) := reacts count
      readMessages reacts (count + 1)
        (run UserAgent.step agent (.message bytes now :: .takeEvents :: callback)) rest

def readSip (reacts : Nat → Time × List Op) (loop : NetworkLoop Session) : NetworkLoop Session :=
  match loop.sip with
  | none => loop
  | some unread =>
    let (agent, left) := readMessages reacts 0 loop.agent unread
    { loop with agent, sip := some left, sipRead := loop.sipRead + (unread.length - left.length) }

/-- A pass up to the moment when the SIP socket is read. -/
def beforeSip (pass : Pass) (loop : NetworkLoop Session) : NetworkLoop Session :=
  let loop := (loop.arrive pass.polling).readWake.operate pass.commands
  (if loop.sip.isNone then loop.operate pass.link else loop).arrive pass.working

/-- A pass up to the moment when the RTP socket is read. -/
def beforeRtp (pass : Pass) (loop : NetworkLoop Session) : NetworkLoop Session :=
  ((loop.beforeSip pass).readSip pass.reacts).arrive pass.reading

/-- A pass of the loop. -/
def iterate (loop : NetworkLoop Session) (pass : Pass) : NetworkLoop Session :=
  let loop := (loop.beforeRtp pass).onHost Ports.read
  (loop.operate (.timer pass.now :: .takeEvents :: pass.callback)).onHost (Ports.send pass.packets)

/-- The pass consumes at least one unit from a descriptor, if that is in its poll set and has unread
input when poll returns. -/
def ConsumesFrom (loop : NetworkLoop Session) (pass : Pass) (descriptor : Descriptor) : Prop :=
  descriptor ∈ (loop.arrive pass.polling).polled →
    0 < (loop.arrive pass.polling).unread descriptor →
      loop.consumed descriptor < (loop.iterate pass).consumed descriptor

/-- The pass consumes at least one unit from every descriptor in its poll set that has unread
input when poll returns. -/
def Consumes (loop : NetworkLoop Session) (pass : Pass) : Prop :=
  ∀ descriptor, loop.ConsumesFrom pass descriptor

/-- When poll returns there is no RTP socket, or nothing to be read from it, or media is active. -/
def Attended (loop : NetworkLoop Session) (pass : Pass) : Prop :=
  loop.agent.host.media.rtp = none ∨ (loop.arrive pass.polling).agent.host.unread = [] ∨
    loop.agent.host.media.active = true

end NetworkLoop

/-! ### What is read -/

theorem NetworkLoop.readPipe_eq_zero (reads bytes : Nat) (enough : bytes ≤ reads) :
    readPipe reads bytes = 0 := by
  induction reads generalizing bytes with
  | zero => exact Nat.le_zero.mp enough
  | succ reads hypothesis =>
    unfold readPipe
    split
    · rfl
    · exact hypothesis _ (by omega)

theorem NetworkLoop.readMessages_length (count : Nat) (agent : UserAgent (Ports Session))
    (unit : Unread) (rest : List Unread) :
    (readMessages reacts count agent (unit :: rest)).2.length ≤ rest.length := by
  induction rest generalizing count agent unit with
  | nil =>
    cases unit with
    | failure => exact Nat.le_refl _
    | datagram bytes =>
      unfold readMessages
      split
      · exact Nat.le_refl _
      · exact Nat.le_refl _
  | cons next rest hypothesis =>
    cases unit with
    | failure => exact Nat.le_refl _
    | datagram bytes =>
      rw [readMessages]
      split
      · exact Nat.le_refl _
      · exact Nat.le_succ_of_le (hypothesis _ _ _)

theorem Ports.readRtp_length (units : List Unread) :
    (readRtp media units).2.length ≤ units.length ∧
      (units ≠ [] → media.rtp.isSome = true → media.active = true →
        (readRtp media units).2.length < units.length) := by
  induction units generalizing media with
  | nil => exact ⟨Nat.le_refl _, fun nonempty => absurd rfl nonempty⟩
  | cons unit rest hypothesis =>
    unfold readRtp
    by_cases running : (media.rtp.isSome && media.active) = true
    · rw [if_pos running]
      have shorter : (match unit with
          | .failure => (media, rest)
          | .datagram bytes =>
            if bytes.isEmpty then (media, rest)
            else readRtp (media.receive bytes).2 rest).2.length ≤ rest.length := by
        cases unit with
        | failure => exact Nat.le_refl _
        | datagram bytes =>
          dsimp only
          split
          · exact Nat.le_refl _
          · exact (hypothesis _).1
      exact ⟨Nat.le_succ_of_le shorter, fun _ _ _ => Nat.lt_succ_of_le shorter⟩
    · rw [if_neg running]
      refine ⟨Nat.le_refl _, fun _ opened active => ?_⟩
      rw [opened, active] at running
      exact absurd rfl running

/-! ### What the agent does to the socket -/

/-- Nothing has left the RTP socket, and media that was active still is. -/
structure Ports.Holds (before after : Ports Session) : Prop where
  removed : after.removed = before.removed
  unread : before.unread <+: after.unread
  rtp : after.media.rtp = before.media.rtp
  active : before.media.active = true → after.media.active = true

/-- What has been done to the RTP socket: nothing has left it, or it was released with what was on
it. -/
structure Ports.Tends (before after : Ports Session) : Prop where
  grows : before.removed ≤ after.removed
  kept : before.Holds after ∨ before.removed + before.unread.length ≤ after.removed

namespace Ports

variable {before middle after : Ports Session} {actions : List Action}

theorem Holds.refl (ports : Ports Session) : ports.Holds ports :=
  ⟨rfl, prefix_refl _, rfl, id⟩

theorem Holds.trans (early : before.Holds middle) (late : middle.Holds after) :
    before.Holds after :=
  ⟨late.removed.trans early.removed, early.unread.trans late.unread, late.rtp.trans early.rtp,
    late.active ∘ early.active⟩

theorem Holds.tends (holds : before.Holds after) : before.Tends after :=
  ⟨Nat.le_of_eq holds.removed.symm, Or.inl holds⟩

theorem Tends.released (lost : before.removed + before.unread.length ≤ after.removed) :
    before.Tends after :=
  ⟨Nat.le_of_add_right_le lost, Or.inr lost⟩

theorem Tends.trans (early : before.Tends middle) (late : middle.Tends after) :
    before.Tends after := by
  rcases early.kept with holds | lost
  · rcases late.kept with further | lost
    · exact (holds.trans further).tends
    · have longer := holds.unread.length_le
      rw [holds.removed] at lost
      exact .released (by omega)
  · exact .released (lost.trans late.grows)

theorem Holds.send (packets : List Bytes) (ports : Ports Session) :
    ports.Holds (ports.send packets) := by
  have same : (ports.send packets).media.rtp = ports.media.rtp ∧
      (ports.send packets).media.active = ports.media.active := by
    refine loop_keeps (fun media : Engine Session =>
      media.rtp = ports.media.rtp ∧ media.active = ports.media.active) packets
      (fun media packet _ same => ?_) ⟨rfl, rfl⟩
    unfold Engine.transmit
    split
    · split <;> exact same
    · exact same
  exact ⟨rfl, prefix_refl _, same.1, same.2.trans⟩

/-- The agent does nothing to the socket but release it. -/
theorem Tends.of_drives {config : UserAgentConfig} (drives : Drives config before actions after) :
    before.Tends after := by
  induction drives with
  | refl => exact (Holds.refl _).tends
  | sendSip _ _ hypothesis | allocate _ hypothesis =>
    exact hypothesis.trans (Holds.tends ⟨rfl, prefix_refl _, rfl, id⟩)
  | openMedia _ hypothesis => exact hypothesis.trans (.released (Nat.le_refl _))
  | @startMedia _ host _ remote hypothesis =>
    obtain ⟨rtp, active⟩ := host.media.startMedia_keeps remote
    exact hypothesis.trans (Holds.tends ⟨rfl, prefix_refl _, rtp, active⟩)
  | closeMedia _ hypothesis => exact hypothesis.trans (.released (Nat.le_refl _))
  | emit _ _ hypothesis | begin _ _ _ _ hypothesis => exact hypothesis

theorem Tends.ops (agent : UserAgent (Ports Session)) (ops : List Op) :
    agent.host.Tends (run UserAgent.step agent ops).host :=
  run_relates (fun before after => before.host.Tends after.host)
    (fun agent => (Holds.refl agent.host).tends) Tends.trans
    (fun agent op => .of_drives (agent.step_drives op).2) agent ops

end Ports

/-! ### A pass -/

namespace NetworkLoop

variable (loop : NetworkLoop Session) (pass : Pass)

theorem arrive_holds (arrivals : Arrivals) (loop : NetworkLoop Session) :
    loop.agent.host.Holds (loop.arrive arrivals).agent.host := by
  show loop.agent.host.Holds (if loop.agent.host.media.rtp.isSome then _ else _)
  split
  · exact ⟨rfl, prefix_append _ _, rfl, id⟩
  · exact .refl _

theorem readMessages_tends (count : Nat) (agent : UserAgent (Ports Session)) (units : List Unread) :
    agent.host.Tends (readMessages reacts count agent units).1.host := by
  induction units generalizing count agent with
  | nil => exact (Ports.Holds.refl _).tends
  | cons unit rest hypothesis =>
    cases unit with
    | failure => exact (Ports.Holds.refl _).tends
    | datagram bytes =>
      rw [readMessages]
      split
      · exact (Ports.Holds.refl _).tends
      · exact (Ports.Tends.ops agent
          (.message bytes (reacts count).1 :: .takeEvents :: (reacts count).2)).trans
            (hypothesis (count + 1) _)

theorem readSip_tends (loop : NetworkLoop Session) :
    loop.agent.host.Tends (loop.readSip reacts).agent.host := by
  unfold readSip
  split
  · exact (Ports.Holds.refl _).tends
  · exact readMessages_tends reacts 0 loop.agent _

theorem beforeSip_tends (loop : NetworkLoop Session) :
    (loop.arrive pass.polling).agent.host.Tends (loop.beforeSip pass).agent.host := by
  have commands := Ports.Tends.ops (loop.arrive pass.polling).agent pass.commands
  unfold beforeSip
  dsimp only
  split
  · have link := Ports.Tends.ops
      ((loop.arrive pass.polling).readWake.operate pass.commands).agent pass.link
    refine .trans ?_ (arrive_holds pass.working _).tends
    exact commands.trans link
  · refine .trans ?_ (arrive_holds pass.working _).tends
    exact commands

theorem beforeRtp_tends (loop : NetworkLoop Session) :
    (loop.arrive pass.polling).agent.host.Tends (loop.beforeRtp pass).agent.host :=
  ((loop.beforeSip_tends pass).trans (readSip_tends pass.reacts (loop.beforeSip pass))).trans
    (arrive_holds pass.reading _).tends

/-- What the pass does with the RTP socket after it has read it. -/
theorem afterRtp_tends (loop : NetworkLoop Session) :
    (loop.beforeRtp pass).agent.host.read.Tends (loop.iterate pass).agent.host :=
  (Ports.Tends.ops ((loop.beforeRtp pass).onHost Ports.read).agent
    (.timer pass.now :: .takeEvents :: pass.callback)).trans (Ports.Holds.send pass.packets _).tends

theorem wake_consumed :
    (loop.iterate pass).wakeRead = loop.wakeRead + (loop.arrive pass.polling).wake := by
  have started : (loop.beforeSip pass).wakeRead =
      loop.wakeRead + (loop.arrive pass.polling).wake := by
    have whole : (loop.arrive pass.polling).readWake.wakeRead =
        loop.wakeRead + (loop.arrive pass.polling).wake := by
      unfold readWake
      rw [readPipe_eq_zero _ _ (Nat.le_refl _)]
      rfl
    unfold beforeSip
    dsimp only
    split <;> exact whole
  refine Eq.trans ?_ started
  show ((loop.beforeSip pass).readSip pass.reacts).wakeRead = _
  unfold readSip
  split <;> rfl

/-- A pass reads from the SIP socket when there is anything on it. -/
theorem sip_consumed (filled : 0 < (loop.arrive pass.polling).unread .sip) :
    loop.sipRead < (loop.iterate pass).sipRead := by
  show loop.sipRead < ((loop.beforeSip pass).readSip pass.reacts).sipRead
  have kept : (loop.beforeSip pass).sip =
      ((loop.sip.map (· ++ pass.polling.sip)).map (· ++ pass.working.sip)) ∧
      (loop.beforeSip pass).sipRead = loop.sipRead := by
    unfold beforeSip
    dsimp only
    split <;> exact ⟨rfl, rfl⟩
  change 0 < ((loop.sip.map (· ++ pass.polling.sip)).getD []).length at filled
  cases units : loop.sip with
  | none =>
    rw [units] at filled
    cases filled
  | some units' =>
    rw [units] at filled kept
    change 0 < (units' ++ pass.polling.sip).length at filled
    unfold readSip
    rw [kept.1, kept.2]
    dsimp only [Option.map_some]
    cases list : units' ++ pass.polling.sip ++ pass.working.sip with
    | nil =>
      have empty := congrArg List.length list
      rw [length_append, length_nil] at empty
      omega
    | cons unit rest =>
      have shorter := readMessages_length pass.reacts 0 (loop.beforeSip pass).agent unit rest
      rw [length_cons]
      omega

variable {loop : NetworkLoop Session} {pass : Pass}

theorem read_removed (ports : Ports Session) :
    ports.read.removed + ports.read.unread.length = ports.removed + ports.unread.length := by
  have fewer := (Ports.readRtp_length ports.media ports.unread).1
  show ports.removed + (ports.unread.length - (Ports.readRtp ports.media ports.unread).2.length) +
    (Ports.readRtp ports.media ports.unread).2.length = _
  omega

/-- An RTP socket that the pass attends to loses something of its input. -/
theorem Attended.rtp_consumed (attended : loop.Attended pass)
    (opened : loop.agent.host.media.rtp.isSome = true)
    (filled : 0 < (loop.arrive pass.polling).agent.host.unread.length) :
    loop.agent.host.removed < (loop.iterate pass).agent.host.removed := by
  have active : loop.agent.host.media.active = true := by
    rcases attended with closed | empty | active
    · rw [closed] at opened
      cases opened
    · rw [empty] at filled
      cases filled
    · exact active
  have start := arrive_holds pass.polling loop
  have same := start.removed
  have balance := read_removed (loop.beforeRtp pass).agent.host
  have reads := Ports.readRtp_length (loop.beforeRtp pass).agent.host.media
    (loop.beforeRtp pass).agent.host.unread
  have less : (loop.beforeRtp pass).agent.host.read.unread.length ≤
      (loop.beforeRtp pass).agent.host.unread.length := reads.1
  have goes := (loop.afterRtp_tends pass).grows
  rcases (loop.beforeRtp_tends pass).kept with holds | lost
  · have kept := holds.removed
    have longer := holds.unread.length_le
    have shorter : (loop.beforeRtp pass).agent.host.read.unread.length <
        (loop.beforeRtp pass).agent.host.unread.length :=
      reads.2 (ne_nil_of_length_pos (by omega))
        (by rw [holds.rtp, start.rtp]; exact opened) (holds.active (start.active active))
    omega
  · omega

theorem consumesFrom (loop : NetworkLoop Session) (pass : Pass) {descriptor : Descriptor}
    (attended : descriptor = .rtp → loop.Attended pass) : loop.ConsumesFrom pass descriptor := by
  intro member filled
  cases descriptor with
  | wake =>
    show loop.wakeRead < (loop.iterate pass).wakeRead
    rw [wake_consumed]
    exact Nat.lt_add_of_pos_right filled
  | sip => exact loop.sip_consumed pass filled
  | rtp =>
    have polls : .rtp ∈ (loop.arrive pass.polling).polled ↔
        loop.agent.host.media.rtp.isSome = true := by
      unfold polled
      rw [(arrive_holds pass.polling loop).rtp]
      cases (loop.arrive pass.polling).sip.isSome <;>
        cases loop.agent.host.media.rtp.isSome <;> decide
    exact (attended rfl).rtp_consumed (polls.mp member) filled

/-- In every run, each pass consumes something of the wake pipe and of the SIP socket if it polls
them and they have unread input; and of every descriptor that does, if media is active when poll
returns, or there is no RTP socket then, or nothing to be read from it. -/
theorem passes_consume (config : UserAgentConfig) (platform : Platform Session)
    (mediaFamily : AddressFamily) (random : Random) (tls : Bool) (passes : List Pass) :
    StepsMeet iterate (fun loop pass =>
        loop.ConsumesFrom pass .wake ∧ loop.ConsumesFrom pass .sip ∧
          (loop.Attended pass → loop.Consumes pass))
      (create config platform mediaFamily random tls) passes :=
  stepsMeet_of_forall fun loop pass =>
    ⟨loop.consumesFrom pass nofun, loop.consumesFrom pass nofun,
      fun attended _ => loop.consumesFrom pass fun _ => attended⟩

/-- A phone over UDP that nothing has happened to. -/
def quiet : NetworkLoop Unit :=
  create
    { domain := ascii "10.0.0.1"
      extension := ascii "100"
      password := ascii "secret"
      localAddress := ascii "10.0.0.9"
      userAgent := ascii "ketphone"
      correlationHeader := [] } Platform.refusing .inet Random.counting false

/-- A call of this side, and a packet on its RTP socket before the far end has answered. -/
def earlyMedia : List Pass :=
  [{ commands := [.call 1 (ascii "101") 0, .takeEvents] },
    { polling := { rtp := [.datagram [128]] } }]

theorem earlyMedia_not_consumed : ¬StepsMeet iterate Consumes quiet earlyMedia := by
  rintro ⟨-, consumes, -⟩
  have lost := consumes .rtp (by decide +kernel) (by decide +kernel)
  exact absurd lost (by decide +kernel)

end NetworkLoop

end KetPhone.Core
