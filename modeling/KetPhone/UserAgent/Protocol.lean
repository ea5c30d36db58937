/-
This file follows the agent's calls from the outside, by what the agent asks of its
surroundings. A monitor reads the log and keeps the call that is alive, how far it
has come and whether media is open; it allows only what the protocol between the
agent, the application and the media layer allows at that point. Every log of the
agent is allowed, and the monitor then knows what the agent knows. From this the
order of a call's events and the balance of the media follow.
-/

import KetPhone.UserAgent.Setup
import Mathlib.Data.List.Chain

namespace KetPhone.Core

open Sip List UserAgent

variable {Host : Type}
variable {outgoing : Bool} {words : List EventKind} {history : List Action} {id : Int32}
  (call : Call)

/-! ### The monitor -/

/-- How far a call has come, as the application was told. -/
inductive Phase where
  | begun
  | announced
  | answered
  deriving DecidableEq, Repr

/-- A call that has begun and not ended. -/
structure Live where
  outgoing : Bool
  id : Int32
  phase : Phase
  deriving DecidableEq, Repr

/-- What the monitor knows: the call that is alive, and whether media is open. -/
structure Monitor where
  live : Option Live
  mediaOpen : Bool
  deriving DecidableEq, Repr

/-- Where an event takes the call that it names, if it may come now. -/
def Live.tell (live : Live) : EventKind → Option (Option Live)
  | .registration => none
  | .callIncoming =>
    if live.outgoing = false ∧ live.phase = .begun then
      some (some { live with phase := .announced })
    else none
  | .callProgress => if live.outgoing = true ∧ live.phase = .begun then some (some live) else none
  | .callAnswered =>
    if live.phase = if live.outgoing then .begun else .announced then
      some (some { live with phase := .answered })
    else none
  | .callEnded => if live.outgoing = true ∨ live.phase ≠ .begun then some none else none

/-- What the monitor allows, and what it knows then. -/
def Monitor.next (watched : Monitor) : Action → Option Monitor
  | .sendSip _ => some watched
  | .openMedia port =>
    if port = 0 then some watched
    else if watched.mediaOpen then none else some { watched with mediaOpen := true }
  | .startMedia _ _ => if watched.mediaOpen then some watched else none
  | .closeMedia => if watched.mediaOpen then some { watched with mediaOpen := false } else none
  | .begin outgoing id _ =>
    if watched.live.isSome then none
    else some { watched with live := some { outgoing, id, phase := .begun } }
  | .emit event =>
    if event.kind = .registration then some watched
    else
      match watched.live with
      | none => none
      | some live =>
        -- a call ends once its media is closed
        if live.id ≠ event.callId ∨ event.kind = .callEnded ∧ watched.mediaOpen = true then none
        else (live.tell event.kind).map fun live => { watched with live }

/-- Nothing is alive and no media is open. -/
def Monitor.idle : Monitor := { live := none, mediaOpen := false }

/-- What a call looks like from the outside. -/
def Call.live (call : Call) : Live :=
  { outgoing := call.outgoing
    id := call.id
    phase := if call.state = .confirmed then .answered
      else if call.outgoing then .begun else .announced }

/-- What the agent's call looks like from the outside, if there is one. -/
def Monitor.of (current : Option Call) : Monitor :=
  { live := current.map Call.live
    mediaOpen := (current.map Call.mediaOpen).getD false }

/-! ### What the monitor allows -/

theorem Call.live_told : call.live.outgoing = true ∨ call.live.phase ≠ .begun := by
  cases outgoing : call.outgoing with
  | true => exact Or.inl outgoing
  | false =>
    refine Or.inr ?_
    unfold live
    rw [outgoing]
    dsimp only
    split <;> simp

namespace Monitor

@[simp]
theorem next_sendSip (watched : Monitor) (packet : Packet) :
    watched.next (.sendSip packet) = some watched := rfl

theorem next_openMedia (live : Option Live) (port : UInt16) :
    next { live, mediaOpen := false } (.openMedia port) =
      some { live, mediaOpen := decide (port ≠ 0) } := by
  by_cases unopened : port = 0 <;> simp [next, unopened]

theorem next_startMedia {watched : Monitor} (opened : watched.mediaOpen = true)
    (remote : RemoteMedia) (started : Bool) :
    watched.next (.startMedia remote started) = some watched :=
  if_pos opened

theorem next_of_concernsRegistration (watched : Monitor) {action : Action}
    (concerns : action.ConcernsRegistration) : watched.next action = some watched := by
  match action with
  | .sendSip _ => rfl
  | .emit event => exact if_pos concerns

theorem watch_farewell {live : Live} {call : Call} (id : live.id = call.id)
    (told : live.outgoing = true ∨ live.phase ≠ .begun) (reason : EndReason) (status : Int) :
    watch next { live := some live, mediaOpen := call.mediaOpen } (call.farewell reason status) =
      some idle := by
  unfold Call.farewell
  cases call.mediaOpen <;> simp [next, Live.tell, id, told, idle]

theorem watch_farewell_of (reason : EndReason) (status : Int) :
    watch next (of (some call)) (call.farewell reason status) = some idle :=
  watch_farewell rfl call.live_told reason status

theorem watch_farewell_with (mediaOpen : Bool) (reason : EndReason) (status : Int) :
    watch next { live := some call.live, mediaOpen }
      ({ call with mediaOpen }.farewell reason status) = some idle :=
  watch_farewell_of { call with mediaOpen } reason status

end Monitor

/-! ### What the agent does -/

section Steps

variable [UserAgentHost Host] {cause : Cause} {added : List Action}
  {before after : UserAgent Host}

theorem RegisterSide.watch (side : RegisterSide before after)
    (log : after.log = before.log ++ added) (watched : Monitor) :
    KetPhone.watch Monitor.next watched added = some watched := by
  obtain ⟨more, equal, concerns⟩ := side.frame.log
  rw [append_cancel_left (log.symm.trans equal)]
  clear equal
  induction more with
  | nil => rfl
  | cons action more hypothesis =>
    obtain ⟨first, rest⟩ := forall_mem_cons.mp concerns
    rw [watch_cons, watched.next_of_concernsRegistration first.1]
    exact hypothesis rest

theorem CallTurn.watch (turn : CallTurn cause added before after) (linked : before.Linked) :
    KetPhone.watch Monitor.next (.of before.current) added = some (.of after.current) := by
  have shaped {call : Call} (present : before.current = some call) := linked.shaped call present
  cases turn with
  | rests does => rw [does.current]; rfl
  | replies _ does => rw [does.current]; rfl
  | acknowledges _ _ does => rw [does.current]; rfl
  | proceeds _ _ _ does => rw [does.current]; rfl
  | progresses _ _ present _ calling _ told does =>
    rw [does.current, present]
    have outgoing := (shaped present).outgoing_of_calling calling
    rcases told with rfl | ⟨event, kind, id, rfl⟩
    · rfl
    · simp [Monitor.next, Monitor.of, Call.live, Live.tell, kind, id, calling, outgoing]
  | cancelsLate _ _ present _ _ _ _ _ _ does => rw [does.current, present]; rfl
  | concludes _ _ does => rw [does.current]; rfl
  | forgets _ _ _ sent does =>
    rw [does.current]
    rcases sent with rfl | ⟨_, rfl⟩ <;> rfl
  | parts _ _ _ _ _ _ does => rw [does.current]; rfl
  | fails _ _ own acknowledged does =>
    rw [does.current, (callOf_eq_some own).1]
    rcases acknowledged with rfl | ⟨_, rfl⟩ <;> exact Monitor.watch_farewell_of _ _ _
  | retries _ _ own _ _ _ _ does => rw [does.current, (callOf_eq_some own).1]; rfl
  | connects heard _ invites own _ _ told does =>
    obtain ⟨present, calling, outgoing, mediaOpen⟩ := linked.of_callOf heard.pending invites own
    rw [does.current, present]
    simp [Monitor.next, Monitor.of, Call.live, Live.tell, Call.confirm, told.1, told.2, calling,
      outgoing, mediaOpen]
  | drops heard _ invites own _ refused _ does =>
    obtain ⟨present, -, -, mediaOpen⟩ := linked.of_callOf heard.pending invites own
    rw [does.current, present]
    rcases refused with rfl | ⟨remote, rfl⟩
    · exact Monitor.watch_farewell_of _ _ _
    · rw [cons_append, watch_cons, Monitor.next_sendSip, Option.bind_some, cons_append,
        watch_cons, Monitor.next_startMedia mediaOpen]
      exact Monitor.watch_farewell_of _ _ _
  | dialFails idle outgoing mediaOpen does =>
    rw [does.current, idle, watch_cons]
    show ((Monitor.next Monitor.idle _).bind _) = _
    rw [Monitor.idle, Monitor.next_openMedia, ← mediaOpen]
    exact Monitor.watch_farewell rfl (Or.inl rfl) _ _
  | dials idle opened dialling _ _ does =>
    rw [does.current, idle]
    simp [Monitor.next, Monitor.of, Call.live, Call.invited, opened, dialling.outgoing,
      dialling.state, dialling.mediaOpen]
  | rings _ idle told does =>
    rw [does.current, idle]
    simp [Monitor.next, Monitor.of, Call.live, Live.tell, incomingCall, told.1, told.2]
  | reinvites _ same settled does =>
    have present := (sameCall_eq_some same).1
    have opened := (shaped present).mediaOpen_of_settled settled
    rw [does.current, present, watch_cons, Monitor.next_startMedia opened]
    rfl
  | confirms present incoming answering told does =>
    rw [does.current, present]
    simp [Monitor.next, Monitor.of, Call.live, Live.tell, incoming, answering, told.1, told.2]
  | hearsBye _ same does =>
    rw [does.current, (sameCall_eq_some same).1]
    exact Monitor.watch_farewell_of _ _ _
  | hearsCancel _ same _ _ does =>
    rw [does.current, (sameCall_eq_some same).1]
    exact Monitor.watch_farewell_of _ _ _
  | rejects present _ _ does =>
    rw [does.current, present]
    exact Monitor.watch_farewell_of _ _ _
  | answerFails present incoming ringing refused does =>
    have closed := (shaped present).mediaOpen_of_ringing incoming ringing
    rw [does.current, present, cons_append, watch_cons, Monitor.of, Option.map_some,
      Option.map_some, Option.getD_some, closed, Monitor.next_openMedia, Option.bind_some]
    rcases refused with rfl | ⟨opened, remote, rfl⟩
    · rw [nil_append, watch_cons, Monitor.next_sendSip]
      exact Monitor.watch_farewell_with _ _ _ _
    · rw [cons_append, watch_cons, Monitor.next_startMedia (decide_eq_true opened),
        Option.bind_some, nil_append, watch_cons, Monitor.next_sendSip]
      exact Monitor.watch_farewell_with _ _ _ _
  | accepts present incoming ringing opened does =>
    have closed := (shaped present).mediaOpen_of_ringing incoming ringing
    rw [does.current, present]
    simp [Monitor.next, Monitor.of, Call.live, incoming, ringing, opened, closed]
  | resends present _ sent does =>
    rw [does.current, present]
    rcases sent with rfl | ⟨_, _, rfl⟩ <;> rfl
  | givesUp present _ _ _ does => rw [does.current, present]; rfl
  | cancels present _ _ _ _ _ does => rw [does.current, present]; rfl
  | abandons present _ _ does =>
    rw [does.current, present]
    exact Monitor.watch_farewell_of _ _ _
  | saysBye present _ _ does =>
    rw [does.current, present]
    exact Monitor.watch_farewell_of _ _ _

/-- The monitor allows every step, and then knows the call that the step leaves. -/
theorem CallStep.watch (step : CallStep cause added before after) (linked : before.Linked) :
    KetPhone.watch Monitor.next (.of before.current) added = some (.of after.current) := by
  cases step with
  | registers side log =>
    rw [side.frame.current]
    exact side.watch log _
  | calls turn => exact turn.watch linked

omit [UserAgentHost Host] in
theorem watch_retransmit (agent : UserAgent Host) (now : Time) (watched : Monitor) :
    KetPhone.watch Monitor.next watched ((agent.transactions.values.filter (·.due now)).map
      fun transaction => .sendSip transaction.packet) = some watched := by
  induction agent.transactions.values.filter (·.due now) with
  | nil => rfl
  | cons transaction rest hypothesis => exact hypothesis

end Steps

theorem watched_run [UserAgentHost Host] (config : UserAgentConfig) (host : Host) (random : Random)
    (ops : List Op) :
    watch Monitor.next .idle (run UserAgent.step (UserAgent.create config host random) ops).log =
      some (.of (run UserAgent.step (UserAgent.create config host random) ops).current) := by
  refine (holds_run (fun agent => agent.Linked ∧
    watch Monitor.next .idle agent.log = some (.of agent.current))
    (fun agent now both => ⟨both.1.retransmit now, ?_⟩)
    (fun step both => ⟨step.linked both.1, ?_⟩) ⟨.of_idle rfl, rfl⟩ ops).2
  · rw [agent.retransmit_log, watch_append, both.2, Option.bind_some, watch_retransmit]
    obtain ⟨host, equal⟩ := agent.retransmit_eq now
    rw [equal]
  · rw [step.log, watch_append, both.2, Option.bind_some]
    exact step.watch both.1

/-! ### The events of a call -/

/-- The kind of the event, if it is one of the given call. -/
def Action.tells (id : Int32) : Action → Option EventKind
  | .emit event => if event.kind ≠ .registration ∧ event.callId = id then some event.kind else none
  | _ => none

/-- The events of a call, in order. -/
def story (id : Int32) (history : List Action) : List EventKind :=
  history.filterMap (Action.tells id)

/-- The call that an action begins. -/
def Action.begun : Action → Option (Bool × Int32)
  | .begin outgoing id _ => some (outgoing, id)
  | _ => none

/-- The calls that have begun. -/
def begun (history : List Action) : List (Bool × Int32) := history.filterMap Action.begun

/-- What a call that has begun tells before it is answered or ended. -/
def opening (outgoing : Bool) (count : Nat) : List EventKind :=
  if outgoing then List.replicate count .callProgress else [.callIncoming]

def reply (answered : Bool) : List EventKind := if answered then [.callAnswered] else []

/-- Where an event takes a call, if it has not ended and the event may come now. -/
def Live.hear (live : Option Live) (kind : EventKind) : Option (Option Live) :=
  live.bind (·.tell kind)

/-- What was told of a call that has come so far. -/
def Spoken (outgoing : Bool) (words : List EventKind) : Option Live → Prop
  | none => ∃ count answered, words = opening outgoing count ++ reply answered ++ [.callEnded]
  | some live => live.outgoing = outgoing ∧ match live.phase with
    | .begun => if outgoing then ∃ count, words = List.replicate count .callProgress else words = []
    | .announced => outgoing = false ∧ words = [.callIncoming]
    | .answered => ∃ count, words = opening outgoing count ++ [.callAnswered]

theorem Spoken.tell {live : Live} {kind : EventKind} {after : Option Live}
    (spoken : Spoken outgoing words (some live)) (told : live.tell kind = some after) :
    Spoken outgoing (words ++ [kind]) after := by
  obtain ⟨outward, id, phase⟩ := live
  obtain ⟨rfl, spoken⟩ := spoken
  cases kind with
  | registration => cases told
  | callIncoming =>
    obtain ⟨⟨incoming, early⟩, moved⟩ := Option.ite_none_right_eq_some.mp told
    cases incoming
    cases early
    cases moved
    cases spoken
    exact ⟨rfl, rfl, rfl⟩
  | callProgress =>
    obtain ⟨⟨out, early⟩, moved⟩ := Option.ite_none_right_eq_some.mp told
    cases out
    cases early
    cases moved
    obtain ⟨count, rfl⟩ := spoken
    exact ⟨rfl, count + 1, replicate_succ'.symm⟩
  | callAnswered =>
    obtain ⟨early, moved⟩ := Option.ite_none_right_eq_some.mp told
    cases moved
    refine ⟨rfl, ?_⟩
    cases outward with
    | true =>
      cases early
      obtain ⟨count, rfl⟩ := spoken
      exact ⟨count, rfl⟩
    | false =>
      cases early
      obtain ⟨-, rfl⟩ := spoken
      exact ⟨0, rfl⟩
  | callEnded =>
    obtain ⟨may, moved⟩ := Option.ite_none_right_eq_some.mp told
    cases moved
    cases phase with
    | begun =>
      cases may.resolve_right (not_not.mpr rfl)
      obtain ⟨count, rfl⟩ := spoken
      exact ⟨count, false, by simp [opening, reply]⟩
    | announced =>
      obtain ⟨incoming, rfl⟩ := spoken
      cases incoming
      exact ⟨0, false, rfl⟩
    | answered =>
      obtain ⟨count, rfl⟩ := spoken
      exact ⟨count, true, rfl⟩

theorem Spoken.of_watch {final : Option Live}
    (heard : watch Live.hear (some { outgoing, id, phase := .begun }) words = some final) :
    Spoken outgoing words final := by
  refine watch_keeps (Spoken outgoing) ?_ (fun past live kind after spoken allowed => ?_) heard
  · refine ⟨rfl, ?_⟩
    cases outgoing with
    | true => exact ⟨0, rfl⟩
    | false => rfl
  · obtain ⟨alive, rfl, told⟩ := Option.bind_eq_some_iff.mp allowed
    exact spoken.tell told

theorem Spoken.part {final : Option Live} (spoken : Spoken outgoing words final) :
    ∃ count answered, words <+: opening outgoing count ++ reply answered ++ [.callEnded] := by
  match final with
  | none =>
    obtain ⟨count, answered, rfl⟩ := spoken
    exact ⟨count, answered, prefix_rfl⟩
  | some ⟨outward, id, phase⟩ =>
    obtain ⟨rfl, spoken⟩ := spoken
    cases phase with
    | begun =>
      cases outward with
      | true =>
        obtain ⟨count, rfl⟩ := spoken
        exact ⟨count, false, [.callEnded], by simp [opening, reply]⟩
      | false =>
        cases spoken
        exact ⟨0, false, nil_prefix⟩
    | announced =>
      obtain ⟨incoming, rfl⟩ := spoken
      cases incoming
      exact ⟨0, false, [.callEnded], rfl⟩
    | answered =>
      obtain ⟨count, rfl⟩ := spoken
      exact ⟨count, true, [.callEnded], rfl⟩

theorem Spoken.ended_iff {final : Option Live} (spoken : Spoken outgoing words final) :
    .callEnded ∈ words ↔ final = none := by
  match final with
  | none =>
    obtain ⟨count, answered, rfl⟩ := spoken
    exact iff_of_true (mem_append_right _ (mem_singleton_self _)) rfl
  | some ⟨outward, id, phase⟩ =>
    refine iff_of_false (fun ended => ?_) nofun
    obtain ⟨rfl, spoken⟩ := spoken
    cases phase with
    | begun =>
      cases outward with
      | true =>
        obtain ⟨count, rfl⟩ := spoken
        exact nomatch eq_of_mem_replicate ended
      | false =>
        cases spoken
        exact nomatch ended
    | announced =>
      obtain ⟨-, rfl⟩ := spoken
      exact nomatch mem_singleton.mp ended
    | answered =>
      obtain ⟨count, rfl⟩ := spoken
      cases outward <;> simp [opening] at ended

/-! ### Every call tells its story -/

/-- The call that is alive, if it has the given id. -/
def Live.named (id : Int32) (live : Option Live) : Option Live :=
  live.filter fun live => live.id = id

@[simp]
theorem Live.named_none (id : Int32) : Live.named id none = none := rfl

theorem Live.named_self {live : Live} (same : live.id = id) :
    Live.named id (some live) = some live :=
  Option.filter_some_pos (decide_eq_true same)

theorem Live.named_other {live : Live} (apart : live.id ≠ id) : Live.named id (some live) = none :=
  Option.filter_some_neg (decide_eq_false apart)

/-- What the monitor knows of the calls that have begun, no two of which had the same id. -/
structure Chronicle (history : List Action) (watched : Monitor) : Prop where
  unbegun : ∀ id, id ∉ (begun history).map Prod.snd → story id history = []
  alive : ∀ live, watched.live = some live → live.id ∈ (begun history).map Prod.snd
  told : ∀ outgoing id, (outgoing, id) ∈ begun history →
    watch Live.hear (some { outgoing, id, phase := .begun }) (story id history) =
      some (Live.named id watched.live)

theorem Live.tell_id {live next : Live} {kind : EventKind}
    (told : live.tell kind = some (some next)) :
    next.id = live.id := by
  cases kind with
  | registration => cases told
  | callIncoming =>
    cases (Option.ite_none_right_eq_some.mp told).2
    rfl
  | callProgress =>
    cases (Option.ite_none_right_eq_some.mp told).2
    rfl
  | callAnswered =>
    cases (Option.ite_none_right_eq_some.mp told).2
    rfl
  | callEnded => cases (Option.ite_none_right_eq_some.mp told).2

namespace Chronicle

variable {past : List Action} {watched after : Monitor} {action : Action}

theorem silent (chronicle : Chronicle past watched) (begins : action.begun = none)
    (tells : ∀ id, action.tells id = none) (live : after.live = watched.live) :
    Chronicle (past ++ [action]) after := by
  have same : begun (past ++ [action]) = begun past := by simp [begun, begins]
  have stories (id : Int32) : story id (past ++ [action]) = story id past := by
    simp [story, tells id]
  refine ⟨?_, ?_, ?_⟩
  · simp only [same, stories]
    exact chronicle.unbegun
  · rw [same, live]
    exact chronicle.alive
  · simp only [same, stories, live]
    exact chronicle.told

/-- A call begins. -/
theorem begins (chronicle : Chronicle past watched) (sipCallId : Bytes) (idle : watched.live = none)
    (fresh : id ∉ (begun past).map Prod.snd)
    (live : after.live = some { outgoing, id, phase := .begun }) :
    Chronicle (past ++ [.begin outgoing id sipCallId]) after := by
  have more : begun (past ++ [.begin outgoing id sipCallId]) = begun past ++ [(outgoing, id)] := by
    simp [begun, Action.begun]
  have stories (other : Int32) :
      story other (past ++ [.begin outgoing id sipCallId]) = story other past := by
    simp [story, Action.tells]
  refine ⟨fun other unbegun => ?_, fun alive present => ?_, fun out other begins => ?_⟩
  · rw [more, map_append, mem_append, not_or] at unbegun
    rw [stories]
    exact chronicle.unbegun other unbegun.1
  · cases live.symm.trans present
    rw [more, map_append]
    exact mem_append_right _ (mem_singleton_self _)
  · rw [more] at begins
    rw [stories, live]
    rcases mem_append.mp begins with old | new
    · have apart : id ≠ other := fun same => fresh (same ▸ mem_map_of_mem old)
      rw [chronicle.told out other old, idle, Live.named_other apart, Live.named_none]
    · cases mem_singleton.mp new
      rw [chronicle.unbegun id fresh]
      exact congrArg some (Live.named_self rfl).symm

/-- Something is told of the call that is alive. -/
theorem tells (chronicle : Chronicle past watched) {live : Live} {event : Event}
    (present : watched.live = some live) (call : event.kind ≠ .registration)
    (id : live.id = event.callId) (told : live.tell event.kind = some after.live) :
    Chronicle (past ++ [.emit event]) after := by
  have same : begun (past ++ [.emit event]) = begun past := by simp [begun, Action.begun]
  have known := chronicle.alive live present
  have own : story live.id (past ++ [.emit event]) = story live.id past ++ [event.kind] := by
    simp [story, Action.tells, call, id]
  have rest {other : Int32} (apart : live.id ≠ other) :
      story other (past ++ [.emit event]) = story other past := by
    simp [story, Action.tells, ← id, apart]
  have still (next : Live) (alive : after.live = some next) : next.id = live.id :=
    Live.tell_id (told.trans (congrArg some alive))
  rw [← same] at known
  refine ⟨fun other unbegun => ?_, fun next alive => still next alive ▸ known,
    fun outgoing other begins => ?_⟩
  · have apart : live.id ≠ other := fun equal => unbegun (equal ▸ known)
    rw [rest apart]
    exact chronicle.unbegun other (same ▸ unbegun)
  · rw [same] at begins
    have before := chronicle.told outgoing other begins
    rw [present] at before
    by_cases equal : live.id = other
    · subst equal
      have kept : Live.named live.id after.live = after.live := by
        cases alive : after.live with
        | none => rfl
        | some next => exact Live.named_self (still next alive)
      rw [Live.named_self rfl] at before
      rw [own, watch_append, before, kept, Option.bind_some, watch_cons, Live.hear,
        Option.bind_some, told]
      rfl
    · have gone : Live.named other after.live = none := by
        cases alive : after.live with
        | none => rfl
        | some next => exact Live.named_other (still next alive ▸ equal)
      rw [rest equal, before, gone, Live.named_other equal]

theorem next (chronicle : Chronicle past watched)
    (distinct : ((begun (past ++ [action])).map Prod.snd).Nodup)
    (allowed : watched.next action = some after) : Chronicle (past ++ [action]) after := by
  cases action with
  | sendSip packet =>
    cases allowed
    exact chronicle.silent rfl (fun _ => rfl) rfl
  | openMedia port =>
    refine chronicle.silent rfl (fun _ => rfl) ?_
    unfold Monitor.next at allowed
    dsimp only at allowed
    split at allowed
    · cases allowed
      rfl
    · split at allowed <;> cases allowed
      rfl
  | startMedia remote started =>
    cases (Option.ite_none_right_eq_some.mp allowed).2
    exact chronicle.silent rfl (fun _ => rfl) rfl
  | closeMedia =>
    cases (Option.ite_none_right_eq_some.mp allowed).2
    exact chronicle.silent rfl (fun _ => rfl) rfl
  | begin outgoing id sipCallId =>
    obtain ⟨idle, begins⟩ := Option.ite_none_left_eq_some.mp allowed
    cases begins
    have more : (begun (past ++ [.begin outgoing id sipCallId])).map Prod.snd =
        (begun past).map Prod.snd ++ [id] := by simp [begun, Action.begun]
    rw [more, nodup_append] at distinct
    refine chronicle.begins sipCallId (Option.not_isSome_iff_eq_none.mp idle) (fun old => ?_) rfl
    exact distinct.2.2 id old id (mem_singleton_self _) rfl
  | emit event =>
    unfold Monitor.next at allowed
    dsimp only at allowed
    split at allowed
    next registration =>
      cases allowed
      exact chronicle.silent rfl (fun _ => if_neg fun call => call.1 registration) rfl
    next call =>
      split at allowed
      · cases allowed
      next live present =>
        obtain ⟨own, moves⟩ := Option.ite_none_left_eq_some.mp allowed
        obtain ⟨next, told, rfl⟩ := Option.map_eq_some_iff.mp moves
        exact chronicle.tells present call (not_not.mp (not_or.mp own).1) told

theorem of_watch (distinct : ((begun history).map Prod.snd).Nodup)
    (watched : watch Monitor.next .idle history = some after) : Chronicle history after := by
  have initial : Chronicle [] .idle :=
    ⟨fun _ _ => rfl, fun _ alive => (nomatch alive), fun _ _ begins => (nomatch begins)⟩
  refine watch_keeps (fun history state => ((begun history).map Prod.snd).Nodup →
    Chronicle history state) (fun _ => initial) ?_ watched distinct
  intro past state action after chronicle allowed distinct
  refine (chronicle ?_).next distinct allowed
  rw [begun, filterMap_append, map_append] at distinct
  exact (nodup_append.mp distinct).1

variable {history : List Action} {outgoing : Bool} {id : Int32}

theorem part (chronicle : Chronicle history watched) (begins : (outgoing, id) ∈ begun history) :
    ∃ count answered,
      story id history <+: opening outgoing count ++ reply answered ++ [.callEnded] :=
  (Spoken.of_watch (chronicle.told outgoing id begins)).part

theorem ended_iff (chronicle : Chronicle history watched)
    (begins : (outgoing, id) ∈ begun history) :
    .callEnded ∈ story id history ↔ ∀ live, watched.live = some live → live.id ≠ id := by
  rw [(Spoken.of_watch (chronicle.told outgoing id begins)).ended_iff]
  refine Option.filter_eq_none_iff.trans (forall_congr' fun live => imp_congr_right fun _ => ?_)
  rw [decide_eq_true_iff]

end Chronicle

/-! ### Every run -/

theorem mem_begun :
    (outgoing, id) ∈ begun history ↔ ∃ sipCallId, .begin outgoing id sipCallId ∈ history := by
  unfold begun
  rw [mem_filterMap]
  constructor
  · rintro ⟨action, member, begins⟩
    match action with
    | .begin _ _ sipCallId =>
      cases begins
      exact ⟨sipCallId, member⟩
  · rintro ⟨sipCallId, member⟩
    exact ⟨_, member, rfl⟩

/-- A call has begun, and its end has not been told. -/
def Unended (history : List Action) (id : Int32) : Prop :=
  id ∈ (begun history).map Prod.snd ∧ .callEnded ∉ story id history

/-- The events of the agent's calls keep to the protocol. -/
structure UserAgent.TellsInOrder (agent : UserAgent Host) : Prop where
  ordered : ∀ outgoing id sipCallId, .begin outgoing id sipCallId ∈ agent.log →
    ∃ count answered,
      story id agent.log <+: opening outgoing count ++ reply answered ++ [.callEnded]
  known : ∀ event, .emit event ∈ agent.log → event.kind ≠ .registration →
    ∃ outgoing sipCallId, .begin outgoing event.callId sipCallId ∈ agent.log
  ended : ∀ outgoing id sipCallId, .begin outgoing id sipCallId ∈ agent.log →
    (.callEnded ∈ story id agent.log ↔ ∀ call, agent.current = some call → call.id ≠ id)
  single : ∀ past, past <+: agent.log → ∀ first second, Unended past first →
    Unended past second → first = second

theorem UserAgent.marks_callId (agent : UserAgent Host) :
    agent.marks callId = (begun agent.log).map Prod.snd := by
  unfold marks begun
  rw [map_filterMap]
  refine filterMap_congr fun action _ => ?_
  cases action <;> rfl

theorem Chronicle.unended_unique {watched : Monitor} (chronicle : Chronicle history watched)
    {first second : Int32} (one : Unended history first) (other : Unended history second) :
    first = second := by
  have alive {id : Int32} (unended : Unended history id) :
      ∃ live, watched.live = some live ∧ live.id = id := by
    obtain ⟨⟨outgoing, _⟩, begins, rfl⟩ := mem_map.mp unended.1
    by_contra gone
    refine unended.2 ((chronicle.ended_iff begins).mpr fun live present same => ?_)
    exact gone ⟨live, present, same⟩
  obtain ⟨live, present, rfl⟩ := alive one
  obtain ⟨same, here, rfl⟩ := alive other
  cases present.symm.trans here
  rfl

/-- Call events follow the call protocol. In every run in which no two calls have the same id, the
events of a call are a part of its story, which its end completes; only calls that have begun have
events; the end of a call is told exactly when the agent has it no more; and at any time at most one
call has begun and not ended. -/
theorem calls_told_in_order [UserAgentHost Host] (config : UserAgentConfig) (host : Host)
    (random : Random) (ops : List Op)
    (distinct : ((run UserAgent.step (UserAgent.create config host random) ops).marks
      callId).Nodup) :
    (run UserAgent.step (UserAgent.create config host random) ops).TellsInOrder := by
  have watched := watched_run config host random ops
  rw [marks_callId] at distinct
  have chronicle := Chronicle.of_watch distinct watched
  refine ⟨fun outgoing id sipCallId begins => ?_, fun event told call => ?_,
    fun outgoing id sipCallId begins => ?_, fun past earlier first second one other => ?_⟩
  · exact chronicle.part (mem_begun.mpr ⟨sipCallId, begins⟩)
  · have spoken : event.kind ∈ story event.callId
        (run UserAgent.step (UserAgent.create config host random) ops).log :=
      mem_filterMap.mpr ⟨_, told, if_pos ⟨call, rfl⟩⟩
    by_contra unbegun
    rw [chronicle.unbegun event.callId] at spoken
    · exact nomatch spoken
    · intro begins
      obtain ⟨⟨outgoing, _⟩, member, equal⟩ := mem_map.mp begins
      cases equal
      exact unbegun ⟨outgoing, mem_begun.mp member⟩
  · rw [chronicle.ended_iff (mem_begun.mpr ⟨sipCallId, begins⟩)]
    simp [Monitor.of, Call.live]
  · obtain ⟨future, whole⟩ := earlier
    rw [← whole] at watched distinct
    rw [watch_append, Option.bind_eq_some_iff] at watched
    obtain ⟨known, early, -⟩ := watched
    rw [begun, filterMap_append, map_append] at distinct
    exact (Chronicle.of_watch (nodup_append.mp distinct).1 early).unended_unique one other

/-- A call that is given up when the connection is lost, and another one after it. -/
theorem dialledTwice_told_in_order :
    ((run UserAgent.step UserAgent.ideal [.call 1 (ascii "101") 0, .hangup 1 1, .transportDown 2,
        .call 2 (ascii "102") 3]).marks callId = [1, 2]) ∧
      (run UserAgent.step UserAgent.ideal [.call 1 (ascii "101") 0, .hangup 1 1, .transportDown 2,
        .call 2 (ascii "102") 3]).TellsInOrder := by
  have marks : (run UserAgent.step UserAgent.ideal [.call 1 (ascii "101") 0, .hangup 1 1,
      .transportDown 2, .call 2 (ascii "102") 3]).marks callId = [1, 2] := by
    decide +kernel
  refine ⟨marks, calls_told_in_order _ _ _ _ ?_⟩
  show ((run UserAgent.step UserAgent.ideal _).marks callId).Nodup
  rw [marks]
  decide

/-! ### Media -/

/-- Media that opens (`true`) or closes (`false`). -/
def Action.toggles : Action → Option Bool
  | .openMedia port => if port = 0 then none else some true
  | .closeMedia => some false
  | _ => none

def toggles (history : List Action) : List Bool := history.filterMap Action.toggles

/-- The media that was opened and the closings. -/
def opened (history : List Action) : Nat := (toggles history).count true

def closed (history : List Action) : Nat := (toggles history).count false

/-- What the monitor knows of the media. -/
structure Balance (history : List Action) (watched : Monitor) : Prop where
  alternate : (toggles history).IsChain (· ≠ ·)
  first : (toggles history).head?.getD true = true
  last : (toggles history).getLast?.getD false = watched.mediaOpen
  balance : opened history = closed history + watched.mediaOpen.toNat

namespace Balance

variable {past : List Action} {watched after : Monitor} {action : Action}

theorem silent (balance : Balance past watched) (toggles : action.toggles = none)
    (same : after.mediaOpen = watched.mediaOpen) : Balance (past ++ [action]) after := by
  have kept : Core.toggles (past ++ [action]) = Core.toggles past := by
    simp [Core.toggles, toggles]
  refine ⟨?_, ?_, ?_, ?_⟩
  · rw [kept]
    exact balance.alternate
  · rw [kept]
    exact balance.first
  · rw [kept, same]
    exact balance.last
  · rw [opened, closed, kept, same]
    exact balance.balance

theorem toggle (balance : Balance past watched) {opens : Bool}
    (toggles : action.toggles = some opens) (was : watched.mediaOpen = !opens)
    (becomes : after.mediaOpen = opens) : Balance (past ++ [action]) after := by
  have more : Core.toggles (past ++ [action]) = Core.toggles past ++ [opens] := by
    simp [Core.toggles, toggles]
  have last := balance.last
  have counts := balance.balance
  rw [was] at last counts
  refine ⟨?_, ?_, ?_, ?_⟩
  · rw [more, isChain_append]
    refine ⟨balance.alternate, isChain_singleton _, fun before latest next only => ?_⟩
    cases only
    rw [latest, Option.getD_some] at last
    rw [last]
    simp
  · -- the first one opens, because nothing was open before it
    rw [more]
    cases list : Core.toggles past with
    | nil =>
      rw [list] at last
      simpa using last
    | cons head rest =>
      have first := balance.first
      rw [list] at first
      exact first
  · rw [more, becomes, List.getLast?_concat, Option.getD_some]
  · unfold opened closed at counts ⊢
    rw [more, becomes, count_append, count_append, counts]
    cases opens <;> rfl

theorem next (balance : Balance past watched) (allowed : watched.next action = some after) :
    Balance (past ++ [action]) after := by
  cases action with
  | sendSip packet =>
    cases allowed
    exact balance.silent rfl rfl
  | openMedia port =>
    by_cases failed : port = 0
    · rw [Monitor.next, if_pos failed] at allowed
      cases allowed
      exact balance.silent (if_pos failed) rfl
    · rw [Monitor.next, if_neg failed] at allowed
      obtain ⟨closed, opens⟩ := Option.ite_none_left_eq_some.mp allowed
      cases opens
      exact balance.toggle (if_neg failed) (Bool.eq_false_iff.mpr closed) rfl
  | startMedia remote started =>
    cases (Option.ite_none_right_eq_some.mp allowed).2
    exact balance.silent rfl rfl
  | closeMedia =>
    obtain ⟨opened, closes⟩ := Option.ite_none_right_eq_some.mp allowed
    cases closes
    exact balance.toggle rfl opened rfl
  | begin outgoing id sipCallId =>
    cases (Option.ite_none_left_eq_some.mp allowed).2
    exact balance.silent rfl rfl
  | emit event =>
    refine balance.silent rfl ?_
    unfold Monitor.next at allowed
    dsimp only at allowed
    split at allowed
    · cases allowed
      rfl
    · split at allowed
      · cases allowed
      · obtain ⟨next, -, rfl⟩ :=
          Option.map_eq_some_iff.mp (Option.ite_none_left_eq_some.mp allowed).2
        rfl

theorem of_watch (watched : watch Monitor.next .idle history = some after) :
    Balance history after := by
  have initial : Balance [] .idle := ⟨isChain_nil, rfl, rfl, rfl⟩
  exact watch_keeps Balance initial (fun _ _ _ _ balance allowed => balance.next allowed) watched

end Balance

theorem Monitor.mediaOpen_of_ended {watched after : Monitor} {event : Event}
    (ended : event.kind = .callEnded) (allowed : watched.next (.emit event) = some after) :
    watched.mediaOpen = false := by
  unfold next at allowed
  dsimp only at allowed
  rw [if_neg (ended ▸ nofun)] at allowed
  split at allowed
  · cases allowed
  · have may := (Option.ite_none_left_eq_some.mp allowed).1
    rw [not_or, not_and, Bool.not_eq_true] at may
    exact may.2 ended

/-- The media that the agent opens and closes balances. -/
structure UserAgent.MediaBalances (agent : UserAgent Host) : Prop where
  alternate : (toggles agent.log).IsChain (· ≠ ·)
  opensFirst : ∀ first, (toggles agent.log).head? = some first → first = true
  closedByEnd : ∀ past event future, agent.log = past ++ .emit event :: future →
    event.kind = .callEnded → opened past = closed past
  startedWhileOpen : ∀ past remote started future,
    agent.log = past ++ .startMedia remote started :: future → opened past = closed past + 1
  openWhileCalled : opened agent.log = closed agent.log + 1 ↔
    ∃ call, agent.current = some call ∧ call.mediaOpen = true

/-- Media resources balance. In every run media is opened and closed in turn, first opened; when the
end of a call is told everything that was opened is closed; media is started only while it is open;
and it is open exactly while the agent has a call whose media is open. -/
theorem media_balances [UserAgentHost Host] (config : UserAgentConfig) (host : Host)
    (random : Random) (ops : List Op) :
    (run UserAgent.step (UserAgent.create config host random) ops).MediaBalances := by
  have watched := watched_run config host random ops
  generalize run UserAgent.step (UserAgent.create config host random) ops = agent at watched ⊢
  have balance := Balance.of_watch watched
  refine ⟨balance.alternate, fun first present => ?_, fun past event future whole ended => ?_,
    fun past remote started future whole => ?_, ?_⟩
  · have first := balance.first
    rw [present] at first
    exact first
  · rw [whole] at watched
    obtain ⟨before, after, early, allowed⟩ := watch_split watched
    have counts := (Balance.of_watch early).balance
    rw [Monitor.mediaOpen_of_ended ended allowed] at counts
    exact counts
  · rw [whole] at watched
    obtain ⟨before, after, early, allowed⟩ := watch_split watched
    have counts := (Balance.of_watch early).balance
    rw [(Option.ite_none_right_eq_some.mp allowed).1] at counts
    exact counts
  · rw [balance.balance]
    match present : agent.current with
    | none => simp [Monitor.of]
    | some call => cases opened : call.mediaOpen <;> simp [Monitor.of, opened]

end KetPhone.Core
