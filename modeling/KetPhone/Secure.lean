/-
This file proves that media is never plain and never keyed wrongly while SRTP is
on. The agent asks for media in stages: closed, open, and started with one key of
its own until it is closed again. An engine that serves such a history has both
SRTP contexts while its session is active, with the keys it was last started with,
so nothing leaves unprotected and nothing arrives unauthenticated.
-/

import KetPhone.Engine
import KetPhone.UserAgent.Keys

namespace KetPhone.Core

open Sip List UserAgent

variable {Host : Type}

/-! ### The stages of media -/

inductive Stage where
  | closed
  | opened
  | started (own : Bytes)
  deriving DecidableEq

/-- The stage after a request for media, unless it is out of turn. -/
def Stage.next : Stage → Action → Option Stage
  | .closed, .openMedia port => some (if port = 0 then .closed else .opened)
  | .opened, .startMedia remote _ => remote.srtp.map fun keys => .started keys.own
  | .started own, .startMedia remote _ =>
    (remote.srtp.filter fun keys => keys.own = own).map fun keys => .started keys.own
  | .opened, .closeMedia => some .closed
  | .started _, .closeMedia => some .closed
  | _, _ => none

/-- The stage after a history. -/
def Stage.after (stage : Stage) (actions : List Action) : Option Stage :=
  (actions.filter Action.isMedia).foldlM Stage.next stage

theorem Stage.after_append {stage middle : Stage} {early late : List Action}
    (reached : stage.after early = some middle) :
    stage.after (early ++ late) = middle.after late := by
  unfold after at reached ⊢
  rw [filter_append, foldlM_append, reached]
  rfl

theorem Stage.after_concat {stage last : Stage} {actions : List Action} {action : Action}
    (media : action.isMedia = true) (reached : stage.after (actions ++ [action]) = some last) :
    ∃ middle, stage.after actions = some middle ∧ middle.next action = some last := by
  unfold after at reached ⊢
  rw [filter_append, foldlM_append, filter_cons_of_pos media, filter_nil,
    Option.bind_eq_bind, Option.bind_eq_some_iff] at reached
  obtain ⟨middle, early, late⟩ := reached
  refine ⟨middle, early, ?_⟩
  rw [foldlM_cons, Option.bind_eq_bind, Option.bind_eq_some_iff] at late
  obtain ⟨next, stepped, same⟩ := late
  cases same
  exact stepped

theorem Stage.after_concat_of_apart (stage : Stage) {action : Action}
    (apart : action.isMedia = false) (actions : List Action) :
    stage.after (actions ++ [action]) = stage.after actions := by
  unfold after
  rw [filter_append, filter_cons_of_neg (by simp [apart]), filter_nil, append_nil]

theorem Stage.after_of_apart (stage : Stage) {actions : List Action}
    (apart : ∀ action ∈ actions, action.isMedia = false) : stage.after actions = some stage := by
  unfold after
  rw [filter_eq_nil_iff.mpr fun action member => by simp [apart action member]]
  rfl

theorem Stage.next_startMedia {stage next : Stage} {remote : RemoteMedia} {started : Bool}
    (inTurn : stage.next (.startMedia remote started) = some next) :
    ∃ keys, remote.srtp = some keys ∧ next = .started keys.own ∧
      ∀ own, stage = .started own → keys.own = own := by
  match stage with
  | .closed => cases inTurn
  | .opened =>
    obtain ⟨keys, keyed, rfl⟩ := Option.map_eq_some_iff.mp inTurn
    exact ⟨keys, keyed, rfl, nofun⟩
  | .started own =>
    obtain ⟨keys, kept, rfl⟩ := Option.map_eq_some_iff.mp inTurn
    obtain ⟨keyed, same⟩ := Option.filter_eq_some_iff.mp kept
    refine ⟨keys, keyed, rfl, ?_⟩
    rintro _ ⟨⟩
    exact of_decide_eq_true same

/-! ### Media and the key of its call -/

/-- A request for media in turn, by the key of the call whose media is open before and after. -/
inductive MediaStep : Option Bytes → Action → Option Bytes → Prop
  | apart {own : Option Bytes} {action : Action} (apart : action.isMedia = false) :
    MediaStep own action own
  | opens (port : UInt16) (own : Bytes) :
    MediaStep none (.openMedia port) (if port = 0 then none else some own)
  | starts {remote : RemoteMedia} {started : Bool} {keys : MediaKeys}
      (keyed : remote.srtp = some keys) :
    MediaStep (some keys.own) (.startMedia remote started) (some keys.own)
  | closes (own : Bytes) : MediaStep (some own) .closeMedia none

theorem MediaStep.opened {port : UInt16} (opened : port ≠ 0) (own : Bytes) :
    MediaStep none (.openMedia port) (some own) := by
  have opens := MediaStep.opens port own
  rwa [if_neg opened] at opens

def MediaSteps : Option Bytes → List Action → Option Bytes → Prop
  | own, [], last => own = last
  | own, action :: rest, last => ∃ next, MediaStep own action next ∧ MediaSteps next rest last

namespace MediaSteps

variable {own middle last : Option Bytes} {early late actions : List Action} {action : Action}

theorem append (first : MediaSteps own early middle) (second : MediaSteps middle late last) :
    MediaSteps own (early ++ late) last := by
  induction early generalizing own with
  | nil =>
    cases first
    exact second
  | cons action rest hypothesis =>
    obtain ⟨next, step, more⟩ := first
    exact ⟨next, step, hypothesis more⟩

theorem concat (steps : MediaSteps own (actions ++ [action]) last) :
    ∃ middle, MediaSteps own actions middle ∧ MediaStep middle action last := by
  induction actions generalizing own with
  | nil =>
    obtain ⟨next, step, rfl⟩ := steps
    exact ⟨own, rfl, step⟩
  | cons other rest hypothesis =>
    obtain ⟨next, step, more⟩ := steps
    obtain ⟨middle, reached, final⟩ := hypothesis more
    exact ⟨middle, ⟨next, step, reached⟩, final⟩

theorem apart (apart : ∀ action ∈ actions, action.isMedia = false) :
    MediaSteps own actions own := by
  induction actions with
  | nil => rfl
  | cons action rest hypothesis =>
    rw [forall_mem_cons] at apart
    exact ⟨own, .apart apart.1, hypothesis apart.2⟩

end MediaSteps

/-- The stage of media that is open for a call with a key, or not open. -/
def Stage.Keyed : Stage → Option Bytes → Prop
  | .closed, none => True
  | .opened, some _ => True
  | .started own, some key => own = key
  | _, _ => False

theorem MediaStep.after {own last : Option Bytes} {action : Action} {stage : Stage}
    (step : MediaStep own action last) (keyed : stage.Keyed own) :
    ∃ next, stage.after [action] = some next ∧ next.Keyed last := by
  cases step with
  | apart apart => exact ⟨stage, stage.after_of_apart (forall_mem_singleton.mpr apart), keyed⟩
  | opens port own =>
    match stage, keyed with
    | .closed, _ =>
      by_cases unopened : port = 0
      · subst unopened
        exact ⟨.closed, rfl, trivial⟩
      · refine ⟨.opened, ?_, ?_⟩
        · show some (if port = 0 then Stage.closed else .opened) = _
          rw [if_neg unopened]
        · rw [if_neg unopened]
          exact trivial
  | @starts remote _ keys known =>
    match stage, keyed with
    | .opened, _ =>
      refine ⟨.started keys.own, ?_, rfl⟩
      show (remote.srtp.map fun keys => Stage.started keys.own).bind some = _
      rw [known]
      rfl
    | .started own, same =>
      refine ⟨.started keys.own, ?_, rfl⟩
      show ((remote.srtp.filter fun keys => keys.own = own).map fun keys =>
        Stage.started keys.own).bind some = _
      rw [known, Option.filter_some_pos (by simpa using same.symm)]
      rfl
  | closes own =>
    match stage, keyed with
    | .opened, _ | .started _, _ => exact ⟨.closed, rfl, trivial⟩

theorem MediaSteps.after {own last : Option Bytes} {actions : List Action} {stage : Stage}
    (steps : MediaSteps own actions last) (keyed : stage.Keyed own) :
    ∃ next, stage.after actions = some next ∧ next.Keyed last := by
  induction actions generalizing own stage with
  | nil =>
    cases steps
    exact ⟨stage, rfl, keyed⟩
  | cons action rest hypothesis =>
    obtain ⟨middle, step, more⟩ := steps
    obtain ⟨next, reached, fits⟩ := step.after keyed
    obtain ⟨final, further, matched⟩ := hypothesis more fits
    exact ⟨final, (Stage.after_append reached).trans further, matched⟩

/-- The key of a call whose media is open. -/
def Call.mediaKey (call : Call) : Option Bytes :=
  if call.mediaOpen then some call.srtpKey else none

def UserAgent.mediaKey (agent : UserAgent Host) : Option Bytes := agent.current.bind Call.mediaKey

theorem Call.isSome_mediaKey (call : Call) : call.mediaKey.isSome = call.mediaOpen := by
  unfold mediaKey
  cases call.mediaOpen <;> rfl

theorem Call.farewell_mediaSteps (call : Call) (reason : EndReason) (status : Int)
    {own : Option Bytes} (opened : own.isSome = call.mediaOpen) :
    MediaSteps own (call.farewell reason status) none := by
  unfold farewell
  rw [← opened]
  cases own with
  | none => exact ⟨_, .apart rfl, rfl⟩
  | some own => exact ⟨_, .closes own, _, .apart rfl, rfl⟩

theorem UserAgent.mediaKey_of_some {agent : UserAgent Host} {call : Call}
    (present : agent.current = some call) : agent.mediaKey = call.mediaKey := by
  unfold mediaKey
  rw [present]
  rfl

theorem UserAgent.mediaKey_of_none {agent : UserAgent Host} (idle : agent.current = none) :
    agent.mediaKey = none := by
  unfold mediaKey
  rw [idle]
  rfl

section Turns

variable [UserAgentHost Host] {cause : Cause} {before after : UserAgent Host} {added : List Action}

/-- With SRTP on every turn asks for media in turn, with the key of its call. -/
theorem CallTurn.mediaSteps (turn : CallTurn cause added before after)
    (secure : before.config.srtp = true) (sound : before.Sound) :
    MediaSteps before.mediaKey added after.mediaKey := by
  have still (same : after.current = before.current)
      (apart : ∀ action ∈ added, action.isMedia = false) :
      MediaSteps before.mediaKey added after.mediaKey := by
    unfold mediaKey
    rw [same]
    exact .apart apart
  have same {call next : Call} (present : before.current = some call)
      (current : after.current = some next) (key : next.mediaKey = call.mediaKey) :
      after.mediaKey = before.mediaKey := by
    rw [mediaKey_of_some present, mediaKey_of_some current, key]
  have keeps {call next : Call} (present : before.current = some call)
      (current : after.current = some next) (key : next.mediaKey = call.mediaKey)
      (apart : ∀ action ∈ added, action.isMedia = false) :
      MediaSteps before.mediaKey added after.mediaKey := by
    rw [same present current key]
    exact .apart apart
  have ends {call : Call} (present : before.current = some call) (ended : after.current = none)
      (sent : List Action) (apart : ∀ action ∈ sent, action.isMedia = false) (reason : EndReason)
      (status : Int) :
      MediaSteps before.mediaKey (sent ++ call.farewell reason status) after.mediaKey := by
    rw [mediaKey_of_some present, mediaKey_of_none ended]
    exact (MediaSteps.apart apart).append
      (call.farewell_mediaSteps reason status call.isSome_mediaKey)
  have opened {call : Call} (present : before.current = some call)
      (settled : call.outgoing = true ∨ call.state ≠ .ringing) :
      before.mediaKey = some call.srtpKey := by
    rw [mediaKey_of_some present, Call.mediaKey, (sound.call _ present).opened.mpr settled]
    rfl
  have invited {transaction : Transaction} {context : InviteContext} {call : Call}
      (invites : transaction.onFinal = .invite context) (own : before.callOf context = some call) :
      before.mediaKey = some call.srtpKey := by
    obtain ⟨present, -, branch⟩ := callOf_eq_some own
    exact opened present (Or.inl ((sound.call _ present).dialled.mpr
      (branch ▸ Transaction.branch_ne_nil invites)))
  have ringing {call : Call} (present : before.current = some call)
      (incoming : call.outgoing = false) (ringing : call.state = .ringing) :
      before.mediaKey = none := by
    have shut : call.mediaOpen = false := by
      rw [← Bool.not_eq_true, (sound.call _ present).opened]
      simp [incoming, ringing]
    rw [mediaKey_of_some present, Call.mediaKey, shut]
    rfl
  have follows {call : Call} {response : Message} {remote : RemoteMedia}
      (follows : before.config.Follows call response remote) (started : Bool) :
      MediaStep (some call.srtpKey) (.startMedia remote started) (some call.srtpKey) := by
    obtain ⟨answer, key, usable, rfl⟩ := follows
    obtain ⟨line, -, rfl⟩ := UserAgentConfig.usableAnswer_line usable secure
    exact .starts (UserAgentConfig.remoteMediaFor_secure secure call answer line)
  have answers {call : Call} (present : before.current = some call)
      (incoming : call.outgoing = false) (own : Bytes) (started : Bool) :
      MediaStep (some own) (.startMedia (before.config.remoteOf call own) started) (some own) := by
    obtain ⟨request, key, -, -, -, usable⟩ := (sound.call _ present).rang incoming
    obtain ⟨line, -, rfl⟩ := UserAgentConfig.acceptable_line usable secure
    exact .starts (UserAgentConfig.remoteOf_secure secure own usable)
  cases turn with
  | rests does | replies _ does | acknowledges _ _ does | proceeds _ _ _ does | concludes _ _ does
  | parts _ _ _ _ _ _ does => exact still does.current (by simp)
  | forgets _ _ _ sent does =>
    rcases sent with rfl | ⟨_, rfl⟩ <;> exact still does.current (by simp)
  | progresses _ _ present _ _ _ told does =>
    refine keeps present does.current rfl ?_
    rcases told with rfl | ⟨_, -, -, rfl⟩ <;> simp
  | resends present _ sent does =>
    refine keeps present does.current rfl ?_
    rcases sent with rfl | ⟨_, -, rfl⟩ <;> simp
  | cancelsLate _ _ present _ _ _ _ _ _ does | cancels present _ _ _ _ _ does
  | givesUp present _ _ _ does | confirms present _ _ _ does =>
    exact keeps present does.current rfl (by simp)
  | retries _ _ own _ _ _ _ does =>
    exact keeps (callOf_eq_some own).1 does.current rfl (by simp)
  | fails _ _ own sent does =>
    refine ends (callOf_eq_some own).1 does.current _ ?_ _ _
    rcases sent with rfl | ⟨_, rfl⟩ <;> simp
  | hearsBye _ same does =>
    exact ends (sameCall_eq_some same).1 does.current [_] (by simp) _ _
  | hearsCancel _ same _ _ does =>
    exact ends (sameCall_eq_some same).1 does.current [_, _] (by simp) _ _
  | rejects present _ _ does => exact ends present does.current [_] (by simp) _ _
  | abandons present _ _ does => exact ends present does.current [] nofun _ _
  | saysBye present _ _ does =>
    exact ends present does.current [_] (by simp) _ _
  | connects _ _ invites own _ _ _ does starts =>
    rw [same (callOf_eq_some own).1 does.current rfl, invited invites own]
    exact ⟨_, .apart rfl, _, follows starts true, _, .apart rfl, rfl⟩
  | @drops _ _ _ _ _ _ call _ _ _ _ _ _ _ invites own _ refused _ does _ starts =>
    have key := invited invites own
    have closes : (some call.srtpKey).isSome = call.mediaOpen := by
      rw [← key, mediaKey_of_some (callOf_eq_some own).1, call.isSome_mediaKey]
    rw [key, mediaKey_of_none does.current]
    refine MediaSteps.append ?_ ⟨_, .apart rfl, call.farewell_mediaSteps _ _ closes⟩
    rcases refused with rfl | ⟨remote, rfl⟩
    · exact ⟨_, .apart rfl, rfl⟩
    · exact ⟨_, .apart rfl, _, follows (starts remote false (mem_singleton_self _)) false, rfl⟩
  | dialFails idle _ mediaOpen does =>
    rw [mediaKey_of_none idle, mediaKey_of_none does.current]
    refine ⟨_, .opens _ [], _, .apart rfl, Call.farewell_mediaSteps _ _ _ ?_⟩
    rw [mediaOpen]
    split <;> simp_all
  | @dials _ _ call _ _ _ idle opened dialling _ _ does =>
    have key (branch : Bytes) : (call.invited branch).mediaKey = some call.srtpKey :=
      if_pos dialling.mediaOpen
    rw [mediaKey_of_none idle, mediaKey_of_some does.current, key]
    exact ⟨_, .opened opened call.srtpKey, _, .apart rfl, _, .apart rfl, rfl⟩
  | rings _ idle _ does =>
    rw [mediaKey_of_none idle, mediaKey_of_some does.current]
    exact .apart (by simp)
  | reinvites _ found settled does offered =>
    obtain ⟨offer, key, -, usable, rfl, -⟩ := offered
    obtain ⟨line, -, rfl⟩ := UserAgentConfig.acceptable_line usable secure
    have present := (sameCall_eq_some found).1
    rw [same present does.current rfl,
      opened present (settled.imp_right fun confirmed => by simp [confirmed])]
    exact ⟨_, .starts (UserAgentConfig.remoteMediaFor_secure secure _ offer line), _, .apart rfl,
      rfl⟩
  | @answerFails _ _ call port _ _ _ present incoming isRinging refused does _ offered =>
    rw [ringing present incoming isRinging, mediaKey_of_none does.current]
    have closes {own : Option Bytes} (opened : own.isSome = decide (port ≠ 0)) (reason : EndReason)
        (status : Int) : MediaSteps own (.sendSip (.response (inviteResponse call 500)) ::
          { call with mediaOpen := decide (port ≠ 0) }.farewell reason status) none :=
      ⟨_, .apart rfl, Call.farewell_mediaSteps _ _ _ opened⟩
    rcases refused with rfl | ⟨opened, remote, rfl⟩
    · refine ⟨_, .opens _ [], closes ?_ _ _⟩
      split <;> simp_all
    · obtain ⟨own, rfl⟩ := offered _ _ (mem_singleton_self _)
      exact ⟨some own, .opened opened own, _, answers present incoming own false,
        closes (by simp [opened]) _ _⟩
  | @accepts _ _ _ _ _ _ srtpKey _ _ _ present incoming isRinging opened does _ offered =>
    rw [ringing present incoming isRinging, mediaKey_of_some does.current, offered]
    exact ⟨some srtpKey, .opened opened srtpKey, _, answers present incoming srtpKey true,
      _, .apart rfl, rfl⟩

theorem CallStep.mediaSteps (step : CallStep cause added before after)
    (secure : before.config.srtp = true) (sound : before.Sound) :
    MediaSteps before.mediaKey added after.mediaKey := by
  cases step with
  | registers side log =>
    obtain ⟨grown, equal, concerns⟩ := side.frame.log
    cases append_cancel_left (log.symm.trans equal)
    unfold mediaKey
    rw [side.frame.current]
    refine .apart fun action member => ?_
    match action, (concerns action member).1 with
    | .sendSip _, _ | .emit _, _ => rfl
  | calls turn => exact turn.mediaSteps secure sound

theorem CallSteps.mediaSteps (steps : CallSteps cause added before after)
    (secure : before.config.srtp = true) (sound : before.Sound) :
    after.Sound ∧ MediaSteps before.mediaKey added after.mediaKey := by
  induction steps with
  | refl => exact ⟨sound, rfl⟩
  | tail steps step hypothesis =>
    obtain ⟨well, moved⟩ := hypothesis secure sound
    have on := steps.drives.1 ▸ secure
    exact ⟨step.sound well, moved.append (step.mediaSteps on well)⟩

/-- With SRTP on every operation asks for media in turn, with the key of its call. -/
theorem UserAgent.Sound.mediaSteps {agent : UserAgent Host} (sound : agent.Sound)
    (secure : agent.config.srtp = true) (op : Op) :
    MediaSteps agent.mediaKey (agent.asked op) (agent.step op).mediaKey := by
  obtain ⟨added, steps⟩ := CallSteps.stepped agent op
  have ready := resending_keeps UserAgent.Sound UserAgent.Sound.retransmit sound op
  have moved := (steps.mediaSteps ((agent.resending_drives op).1 ▸ secure) ready).2
  have same : (agent.resending op).mediaKey = agent.mediaKey := by
    unfold mediaKey
    rw [agent.resending_current]
  rw [agent.asked_eq, steps.started]
  refine .append (.apart fun action member => ?_) (same ▸ moved)
  obtain ⟨transaction, -, rfl⟩ := pending_of_resent member
  rfl

end Turns

/-! ### The engine -/

/-- The remote media of the last start that succeeded. -/
def Action.latest (latest : Option RemoteMedia) : Action → Option RemoteMedia
  | .startMedia remote true => some remote
  | _ => latest

def UserAgent.latestStart (agent : UserAgent Host) : Option RemoteMedia :=
  agent.log.foldl Action.latest none

variable {Session : Type}

theorem SrtpStream.unprotect_key (stream : SrtpStream Session) (platform : Platform Session)
    (call : Nat) (datagram : Bytes) :
    (stream.unprotect platform call datagram).2.key = stream.key := by
  unfold unprotect
  split <;> rfl

namespace Engine

variable {engine : Engine Session} {keys : MediaKeys}

/-- Both SRTP contexts are set, with the keys of each direction. -/
structure Secured (engine : Engine Session) (keys : MediaKeys) : Prop where
  outbound : ∃ stream, engine.srtpOut = some stream ∧ stream.key = keys.own
  inbound : ∃ stream, engine.srtpIn = some stream ∧ stream.key = keys.remote

/-- An active engine was last started with the keys it has, at the stage of its own key. -/
def Obeys (engine : Engine Session) (stage : Stage) (latest : Option RemoteMedia) : Prop :=
  engine.active = true → engine.rtp.isSome = true ∧ ∃ remote keys, latest = some remote ∧
    remote.srtp = some keys ∧ stage = .started keys.own ∧ engine.Secured keys

theorem streamFor_key {direction : Direction} {key : Bytes} {current : Option (SrtpStream Session)}
    {stream : SrtpStream Session}
    (found : (engine.streamFor direction key current).1 = some stream) : stream.key = key := by
  unfold streamFor at found
  split at found
  next kept =>
    cases found
    exact of_decide_eq_true (Option.filter_eq_some_iff.mp kept).2
  · obtain ⟨session, -, rfl⟩ := Option.map_eq_some_iff.mp found
    rfl

theorem streamFor_engine {direction : Direction} {key : Bytes}
    {current result : Option (SrtpStream Session)} {after : Engine Session}
    (outcome : engine.streamFor direction key current = (result, after)) :
    after = engine ∨ after = engine.called := by
  unfold streamFor at outcome
  split at outcome
  · exact Or.inl (congrArg Prod.snd outcome).symm
  · exact Or.inr (congrArg Prod.snd outcome).symm

/-- What `use_keys` does to the engine. -/
structure UsesKeys (before : Engine Session) (keys : MediaKeys) (usable : Bool)
    (after : Engine Session) : Prop where
  active : after.active = before.active
  rtp : after.rtp = before.rtp
  secured : usable = true → after.Secured keys
  kept : ∀ old, before.Secured old → old.own = keys.own → usable = false → after.Secured old

theorem useKeys_usesKeys (engine : Engine Session) (keys : MediaKeys) :
    UsesKeys engine keys (engine.useKeys keys).1 (engine.useKeys keys).2 := by
  unfold useKeys
  split
  · exact ⟨rfl, rfl, nofun, fun _ secured _ _ => secured⟩
  · split
    next failed outcome =>
      rcases streamFor_engine outcome with rfl | rfl
      · exact ⟨rfl, rfl, nofun, fun _ secured _ _ => secured⟩
      · exact ⟨rfl, rfl, nofun, fun _ secured _ _ => ⟨secured.outbound, secured.inbound⟩⟩
    next outbound sending outcome =>
      have own : outbound.key = keys.own := streamFor_key (congrArg Prod.fst outcome)
      have same : sending.active = engine.active ∧ sending.rtp = engine.rtp ∧
          sending.srtpIn = engine.srtpIn := by
        rcases streamFor_engine outcome with rfl | rfl <;> exact ⟨rfl, rfl, rfl⟩
      dsimp only
      split
      next failed further =>
        have kept : failed.active = engine.active ∧ failed.rtp = engine.rtp ∧
            failed.srtpOut = some outbound ∧ failed.srtpIn = engine.srtpIn := by
          rcases streamFor_engine further with rfl | rfl <;>
            exact ⟨same.1, same.2.1, rfl, same.2.2⟩
        exact ⟨kept.1, kept.2.1, nofun, fun old secured known _ =>
          ⟨⟨outbound, kept.2.2.1, own.trans known.symm⟩, kept.2.2.2 ▸ secured.inbound⟩⟩
      next inbound receiving further =>
        have remote : inbound.key = keys.remote := streamFor_key (congrArg Prod.fst further)
        have kept : receiving.active = engine.active ∧ receiving.rtp = engine.rtp ∧
            receiving.srtpOut = some outbound := by
          rcases streamFor_engine further with rfl | rfl <;> exact ⟨same.1, same.2.1, rfl⟩
        exact ⟨kept.1, kept.2.1, fun _ => ⟨⟨outbound, kept.2.2, own⟩, inbound, rfl, remote⟩, nofun⟩

theorem connect_contexts (engine : Engine Session) (family : AddressFamily)
    (remote : RemoteMedia) :
    (engine.connect family remote).rtp = engine.rtp ∧
      (engine.connect family remote).srtpOut = engine.srtpOut ∧
        (engine.connect family remote).srtpIn = engine.srtpIn := by
  unfold connect
  split <;> exact ⟨rfl, rfl, rfl⟩

theorem connect_active (engine : Engine Session) (family : AddressFamily) (remote : RemoteMedia)
    (active : engine.active = true) : (engine.connect family remote).active = true := by
  unfold connect
  split
  · exact active
  · rfl

/-- Media starts on the socket there is, and goes on if it had started. -/
theorem startMedia_keeps (engine : Engine Session) (remote : RemoteMedia) :
    (engine.startMedia remote).2.rtp = engine.rtp ∧
      (engine.active = true → (engine.startMedia remote).2.active = true) := by
  unfold startMedia
  cases opened : engine.rtp with
  | none => exact ⟨opened, id⟩
  | some family =>
    dsimp only
    cases remote.srtp with
    | none =>
      refine ⟨(connect_contexts _ family remote).1, fun active => ?_⟩
      exact connect_active _ family remote active
    | some keys =>
      have used := engine.useKeys_usesKeys keys
      dsimp only
      split
      · exact ⟨used.rtp.trans opened, used.active.trans⟩
      · exact ⟨(connect_contexts _ family remote).1.trans (used.rtp.trans opened),
          fun active => connect_active _ family remote (used.active.trans active)⟩

theorem startMedia_unopened (remote : RemoteMedia) (unopened : engine.rtp = none) :
    engine.startMedia remote = (true, engine) := by
  unfold startMedia
  rw [unopened]

theorem startMedia_keyed {remote : RemoteMedia} {family : AddressFamily}
    (opened : engine.rtp = some family) (keyed : remote.srtp = some keys) :
    engine.startMedia remote =
      if !(engine.useKeys keys).1 then (false, (engine.useKeys keys).2)
      else (true, (engine.useKeys keys).2.connect family remote) := by
  unfold startMedia
  rw [opened, keyed]

namespace Obeys

variable {stage next : Stage} {latest : Option RemoteMedia}

theorem of_inactive (inactive : engine.active = false) : engine.Obeys stage latest :=
  fun active => nomatch inactive.symm.trans active

/-- A start in turn. -/
theorem startMedia (obeys : engine.Obeys stage latest) (remote : RemoteMedia)
    (inTurn : stage.next (.startMedia remote (engine.startMedia remote).1) = some next) :
    (engine.startMedia remote).2.Obeys next
      (Action.latest latest (.startMedia remote (engine.startMedia remote).1)) := by
  obtain ⟨keys, keyed, rfl, again⟩ := Stage.next_startMedia inTurn
  cases opened : engine.rtp with
  | none =>
    rw [startMedia_unopened remote opened]
    intro active
    have present := (obeys active).1
    rw [opened] at present
    cases present
  | some family =>
    have uses := engine.useKeys_usesKeys keys
    rw [startMedia_keyed opened keyed]
    generalize engine.useKeys keys = result at uses
    obtain ⟨usable, after⟩ := result
    cases usable with
    | false =>
      intro active
      obtain ⟨present, last, old, known, lastKeys, reached, secured⟩ :=
        obeys (uses.active ▸ active)
      refine ⟨?_, last, old, known, lastKeys, ?_, uses.kept old secured ?_ rfl⟩
      · exact uses.rtp ▸ present
      · rw [again _ reached]
      · exact (again _ reached).symm
    | true =>
      intro _
      obtain ⟨rtp, outbound, inbound⟩ := after.connect_contexts family remote
      have secured := uses.secured rfl
      refine ⟨?_, remote, keys, rfl, keyed, rfl, ?_, ?_⟩
      · show (after.connect family remote).rtp.isSome = true
        rw [rtp, uses.rtp, opened]
        rfl
      · show ∃ stream, (after.connect family remote).srtpOut = some stream ∧ _
        rw [outbound]
        exact secured.outbound
      · show ∃ stream, (after.connect family remote).srtpIn = some stream ∧ _
        rw [inbound]
        exact secured.inbound

theorem allocate (obeys : engine.Obeys stage latest) :
    Engine.Obeys (UserAgentHost.allocateCallId engine).2 stage latest := by
  intro active
  obtain ⟨present, last, keys, known, keyed, reached, secured⟩ := obeys active
  exact ⟨present, last, keys, known, keyed, reached, secured.outbound, secured.inbound⟩

theorem openMedia (obeys : engine.Obeys stage latest)
    (inTurn : stage.next (.openMedia engine.openMedia.1) = some next) :
    engine.openMedia.2.Obeys next latest := by
  have same : engine.openMedia.2.active = engine.active := by
    unfold Engine.openMedia
    split <;> rfl
  refine of_inactive (Bool.eq_false_iff.mpr fun active => ?_)
  obtain ⟨-, _, _, -, -, rfl, -⟩ := obeys (same ▸ active)
  cases inTurn

theorem drives {host : Engine Session} {config : UserAgentConfig} {actions : List Action}
    (obeys : engine.Obeys stage latest) (drives : Drives config engine actions host)
    (inTurn : stage.after actions = some next) :
    host.Obeys next (actions.foldl Action.latest latest) := by
  induction drives generalizing next with
  | refl =>
    cases inTurn
    exact obeys
  | sendSip _ _ hypothesis | emit _ _ hypothesis | begin _ _ _ _ hypothesis =>
    rw [Stage.after_concat_of_apart _ rfl] at inTurn
    rw [foldl_concat]
    exact hypothesis inTurn
  | openMedia _ hypothesis =>
    obtain ⟨middle, early, late⟩ := Stage.after_concat rfl inTurn
    rw [foldl_concat]
    exact (hypothesis early).openMedia late
  | startMedia _ remote hypothesis =>
    obtain ⟨middle, early, late⟩ := Stage.after_concat rfl inTurn
    rw [foldl_concat]
    exact (hypothesis early).startMedia remote late
  | closeMedia _ hypothesis => exact of_inactive rfl
  | allocate _ hypothesis => exact (hypothesis inTurn).allocate

theorem works {later : Engine Session} (obeys : engine.Obeys stage latest)
    (active : later.active = engine.active) (rtp : later.rtp = engine.rtp)
    (outbound : later.srtpOut.map SrtpStream.key = engine.srtpOut.map SrtpStream.key)
    (inbound : later.srtpIn.map SrtpStream.key = engine.srtpIn.map SrtpStream.key) :
    later.Obeys stage latest := by
  intro running
  obtain ⟨present, last, keys, known, keyed, reached, secured⟩ := obeys (active ▸ running)
  refine ⟨rtp ▸ present, last, keys, known, keyed, reached, ?_, ?_⟩
  · obtain ⟨stream, found, own⟩ := secured.outbound
    rw [found, Option.map_some, own] at outbound
    exact Option.map_eq_some_iff.mp outbound
  · obtain ⟨stream, found, remote⟩ := secured.inbound
    rw [found, Option.map_some, remote] at inbound
    exact Option.map_eq_some_iff.mp inbound

theorem receive (obeys : engine.Obeys stage latest) (datagram : Bytes) :
    (engine.receive datagram).2.Obeys stage latest := by
  unfold Engine.receive
  split
  · split
    · exact obeys
    next stream found =>
      refine obeys.works rfl rfl rfl ?_
      rw [found]
      exact congrArg some (stream.unprotect_key engine.platform engine.calls datagram)
  · exact obeys

theorem transmit (obeys : engine.Obeys stage latest) (packet : Bytes) :
    (engine.transmit packet).2.Obeys stage latest := by
  unfold Engine.transmit
  split
  · split
    · exact obeys
    next stream found =>
      refine obeys.works rfl rfl ?_ rfl
      rw [found]
      rfl
  · exact obeys

end Obeys

end Engine

/-! ### Every run -/

/-- What every phone keeps to. -/
structure Guarded (config : UserAgentConfig) (agent : UserAgent (Engine Session)) : Prop where
  fixed : agent.config = config
  sound : agent.Sound
  obeys : config.srtp = true → ∃ stage, Stage.closed.after agent.log = some stage ∧
    stage.Keyed agent.mediaKey ∧ agent.host.Obeys stage agent.latestStart

namespace Guarded

variable {config : UserAgentConfig} {agent : UserAgent (Engine Session)}

theorem step (guarded : Guarded config agent) (op : Op) : Guarded config (agent.step op) := by
  obtain ⟨fixed, drives⟩ := agent.step_drives op
  refine ⟨fixed.trans guarded.fixed, guarded.sound.step op, fun secure => ?_⟩
  obtain ⟨stage, reached, keyed, obeys⟩ := guarded.obeys secure
  obtain ⟨next, inTurn, fits⟩ := (guarded.sound.mediaSteps (guarded.fixed ▸ secure) op).after keyed
  refine ⟨next, ?_, fits, ?_⟩
  · rw [agent.step_asked, Stage.after_append reached, inTurn]
  · unfold latestStart
    rw [agent.step_asked, foldl_append]
    exact obeys.drives drives inTurn

theorem act (guarded : Guarded config agent) (act : Act) : Guarded config (agent.act act) := by
  cases act with
  | operate op => exact guarded.step op
  | receive datagram =>
    refine ⟨guarded.fixed, { guarded.sound with }, fun secure => ?_⟩
    obtain ⟨stage, reached, fits, obeys⟩ := guarded.obeys secure
    exact ⟨stage, reached, fits, obeys.receive datagram⟩
  | transmit packet =>
    refine ⟨guarded.fixed, { guarded.sound with }, fun secure => ?_⟩
    obtain ⟨stage, reached, fits, obeys⟩ := guarded.obeys secure
    exact ⟨stage, reached, fits, obeys.transmit packet⟩
  | allocate =>
    refine ⟨guarded.fixed, { guarded.sound with }, fun secure => ?_⟩
    obtain ⟨stage, reached, fits, obeys⟩ := guarded.obeys secure
    exact ⟨stage, reached, fits, obeys.allocate⟩

theorem create (config : UserAgentConfig) (platform : Platform Session)
    (mediaFamily : AddressFamily) (random : Random) :
    Guarded config (phone config platform mediaFamily random) :=
  ⟨rfl, UserAgent.Sound.create _ _ _, fun _ => ⟨.closed, rfl, trivial,
    Engine.Obeys.of_inactive rfl⟩⟩

theorem run (config : UserAgentConfig) (platform : Platform Session) (mediaFamily : AddressFamily)
    (random : Random) (acts : List Act) :
    Guarded config (KetPhone.run UserAgent.act (phone config platform mediaFamily random) acts) :=
  loop_keeps (Guarded config) acts (fun _ next _ guarded => guarded.act next)
    (create config platform mediaFamily random)

end Guarded

/-! ### Secure and plain phones -/

/-- Media starts with announced keys only; while the session is active both contexts are set with
the keys of the latest start that succeeded; what is sent comes out of `protect`, and what arrives
was accepted by `unprotect`. -/
structure Protected (agent : UserAgent (Engine Session)) : Prop where
  starts : ∀ op remote started, .startMedia remote started ∈ agent.asked op →
    Keyed agent op remote started
  keys : agent.host.active = true → ∃ remote keys outbound inbound,
    agent.latestStart = some remote ∧ remote.srtp = some keys ∧
      agent.host.srtpOut = some outbound ∧ outbound.key = keys.own ∧
        agent.host.srtpIn = some inbound ∧ inbound.key = keys.remote
  sends : ∀ packet datagram, (agent.host.transmit packet).1 = some datagram →
    ∃ outbound, agent.host.srtpOut = some outbound ∧
      (agent.host.platform.srtpProtect agent.host.calls outbound.session packet).1 = some datagram
  receives : ∀ datagram packet, (agent.host.receive datagram).1 = some packet →
    ∃ inbound, agent.host.srtpIn = some inbound ∧
      (agent.host.platform.srtpUnprotect agent.host.calls inbound.session datagram).1 = some packet

/-- No SDP has a crypto line, media starts without keys, and no RTP/SAVP description is accepted. -/
structure Plain (agent : UserAgent (Engine Session)) : Prop where
  sent : ∀ packet, .sendSip packet ∈ agent.log → Unkeyed packet.body
  starts : ∀ op remote started, .startMedia remote started ∈ agent.asked op →
    ∃ media, agent.Hears media op ∧ media.savp = false ∧
      remote = { address := media.address, port := media.port, srtp := none }
  accepts : ∀ op response, .sendSip (.response response) ∈ agent.asked op → response.Accepts →
    ∃ offer, parseAudio response.request.body = some offer ∧ offer.savp = false

theorem Engine.transmit_eq_some {engine : Engine Session} {packet datagram : Bytes}
    {outbound : SrtpStream Session} (found : engine.srtpOut = some outbound)
    (sent : (engine.transmit packet).1 = some datagram) :
    (engine.platform.srtpProtect engine.calls outbound.session packet).1 = some datagram := by
  unfold transmit at sent
  split at sent
  · rw [found] at sent
    dsimp only [SrtpStream.protect] at sent
    split at sent
    · cases sent
    next nonempty =>
      cases result : (engine.platform.srtpProtect engine.calls outbound.session packet).1 with
      | none =>
        rw [result] at nonempty
        exact absurd rfl nonempty
      | some output =>
        rw [result] at sent
        exact sent
  · cases sent

theorem Engine.receive_eq_some {engine : Engine Session} {datagram packet : Bytes}
    {inbound : SrtpStream Session} (found : engine.srtpIn = some inbound)
    (reached : (engine.receive datagram).1 = some packet) :
    (engine.platform.srtpUnprotect engine.calls inbound.session datagram).1 = some packet := by
  unfold receive at reached
  split at reached
  · rw [found] at reached
    dsimp only [SrtpStream.unprotect] at reached
    split at reached
    · cases reached
    · exact reached
  · cases reached

theorem Engine.active_of_transmit {engine : Engine Session} {packet datagram : Bytes}
    (sent : (engine.transmit packet).1 = some datagram) : engine.active = true := by
  unfold transmit at sent
  split at sent
  next ready =>
    rw [Bool.and_eq_true, Bool.and_eq_true] at ready
    exact ready.1.1
  · cases sent

theorem Engine.active_of_receive {engine : Engine Session} {datagram packet : Bytes}
    (reached : (engine.receive datagram).1 = some packet) : engine.active = true := by
  unfold receive at reached
  split at reached
  next ready =>
    rw [Bool.and_eq_true, Bool.and_eq_true] at ready
    exact ready.1.2
  · cases reached

namespace Guarded

variable {config : UserAgentConfig} {agent : UserAgent (Engine Session)}

theorem secured (guarded : Guarded config agent) (secure : config.srtp = true)
    (active : agent.host.active = true) :
    ∃ remote keys, agent.latestStart = some remote ∧ remote.srtp = some keys ∧
      agent.host.Secured keys := by
  obtain ⟨stage, -, -, obeys⟩ := guarded.obeys secure
  obtain ⟨-, remote, keys, known, keyed, -, secured⟩ := obeys active
  exact ⟨remote, keys, known, keyed, secured⟩

theorem protects (guarded : Guarded config agent) (secure : config.srtp = true) :
    Protected agent where
  starts _ _ _ member := guarded.sound.keyed (guarded.fixed ▸ secure) member
  keys active := by
    obtain ⟨remote, keys, known, keyed, secured⟩ := guarded.secured secure active
    obtain ⟨outbound, sending, own⟩ := secured.outbound
    obtain ⟨inbound, receiving, other⟩ := secured.inbound
    exact ⟨remote, keys, outbound, inbound, known, keyed, sending, own, receiving, other⟩
  sends packet datagram sent := by
    obtain ⟨_, _, -, -, secured⟩ := guarded.secured secure (Engine.active_of_transmit sent)
    obtain ⟨outbound, found, -⟩ := secured.outbound
    exact ⟨outbound, found, Engine.transmit_eq_some found sent⟩
  receives datagram packet reached := by
    obtain ⟨_, _, -, -, secured⟩ := guarded.secured secure (Engine.active_of_receive reached)
    obtain ⟨inbound, found, -⟩ := secured.inbound
    exact ⟨inbound, found, Engine.receive_eq_some found reached⟩

theorem plain (guarded : Guarded config agent) (plain : config.srtp = false) : Plain agent where
  sent packet member := (guarded.sound.sent packet member).unkeyed (guarded.fixed ▸ plain)
  starts _ _ _ member := guarded.sound.unkeyed (guarded.fixed ▸ plain) member
  accepts op response member accepts := by
    obtain ⟨offer, key, parsed, usable⟩ := guarded.sound.suits_of_accepts member accepts
    exact ⟨offer, parsed, UserAgentConfig.not_savp usable (guarded.fixed ▸ plain)⟩

end Guarded

/-- In every run of the user agent on its engine, whatever the network and libsrtp do, media is
protected with the keys that were exchanged when SRTP is on, and no key appears when it is off. -/
theorem media_protected (config : UserAgentConfig) (platform : Platform Session)
    (mediaFamily : AddressFamily) (random : Random) (acts : List Act) :
    if config.srtp then
      Protected (run UserAgent.act (phone config platform mediaFamily random) acts)
    else Plain (run UserAgent.act (phone config platform mediaFamily random) acts) := by
  have guarded := Guarded.run config platform mediaFamily random acts
  split
  next secure => exact guarded.protects secure
  next plain => exact guarded.plain (Bool.eq_false_iff.mpr plain)

/-- A platform whose libsrtp refuses every key. -/
def Platform.refusing : Platform Unit where
  openSocket _ _ := some (some 4000)
  resolveAll _ _ _ := []
  srtpCreate _ _ _ := none
  srtpProtect _ session _ := (none, session)
  srtpUnprotect _ session _ := (none, session)

/-- An INVITE with an SRTP offer. -/
def securedInvite : Bytes :=
  ascii "INVITE sip:100@10.0.0.9 SIP/2.0\r\n" ++
    ascii "Via: SIP/2.0/TLS 10.0.0.1:5061;branch=z9hG4bKs\r\n" ++
    ascii "From: <sip:101@10.0.0.1>;tag=s\r\n" ++
    ascii "To: <sip:100@10.0.0.1>\r\n" ++
    ascii "Call-ID: s@10.0.0.1\r\n" ++
    ascii "CSeq: 1 INVITE\r\n\r\n" ++
    ascii "v=0\r\nc=IN IP4 10.0.0.1\r\nm=audio 10000 RTP/SAVP 8\r\n" ++
    ascii "a=crypto:1 AES_CM_128_HMAC_SHA1_80 inline:" ++ ascii "AAAAAAAAAAAAAAAAAAAA" ++
    ascii "AAAAAAAAAAAAAAAAAAAA\r\n"

/-- A phone with SRTP on that refuses every key, and rings. -/
def refusingPhone : UserAgent (Engine Unit) :=
  run UserAgent.act
    (phone
      { domain := ascii "10.0.0.1"
        extension := ascii "100"
        password := ascii "secret"
        localAddress := ascii "10.0.0.9"
        transport := ascii "TLS"
        srtp := true
        userAgent := ascii "ketphone"
        correlationHeader := [] } Platform.refusing .inet Random.counting)
    [.operate (.message securedInvite 0)]

instance (action : Action) : Decidable action.Bodyless :=
  match action with
  | .sendSip packet => decEq packet.body []
  | .openMedia _ | .startMedia _ _ | .closeMedia | .emit _ | .begin _ _ _ => isTrue trivial

theorem Announces.ne_nil {sdp key : Bytes} {tag : UInt32} (announces : Announces sdp tag key) :
    sdp ≠ [] := by
  obtain ⟨address, port, session, version, savp, equal⟩ := announces
  rw [equal]
  exact buildAudioSdp_ne_nil address port session version _

/-- Media that refuses the keys of an answer was given a key that no SDP announces. -/
theorem refused_not_announced :
    ¬ ∀ remote started, .startMedia remote started ∈ refusingPhone.asked (.answer 1 1) →
      ∃ keys packet tag, remote.srtp = some keys ∧
        .sendSip packet ∈ (refusingPhone.step (.answer 1 1)).log ∧
          Announces packet.body tag keys.own := by
  intro always
  have starts : .startMedia ⟨ascii "10.0.0.1", 10000,
      some ⟨List.replicate 30 7, List.replicate 30 0⟩⟩ false ∈
        refusingPhone.asked (.answer 1 1) := by decide +kernel
  obtain ⟨keys, packet, tag, -, sent, announces⟩ := always _ _ starts
  have bodyless : ∀ action ∈ (refusingPhone.step (.answer 1 1)).log, action.Bodyless := by
    decide +kernel
  exact announces.ne_nil (bodyless _ sent)

end KetPhone.Core
