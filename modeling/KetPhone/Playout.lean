/-
This file proves what the jitter buffer plays and what becomes of every frame and
every slot, for any puts, pops and resets at any times.

While the playout point is set, it stands behind the last frame played and in front
of every frame queued. Every move keeps that: a rewind needs an empty queue and a
number that has not been reached by playing, and everything else only moves the
point forward. So the numbers played grow until the next reset. The two balances
are kept move by move: a frame that is stored is queued, and leaves the queue by
being played, dropped or discarded; and a slot that the point passes is played,
missed, dropped or skipped, or given back.
-/

import KetPhone.JitterBuffer
import Mathlib.Algebra.BigOperators.Group.List.Basic
import Mathlib.Algebra.Ring.Int.Defs

namespace KetPhone.Media

open List

variable {second first : Playout} {happening : Happening}

/-! ### Reading what happened -/

namespace Happening

def storedFrame : Happening → Option Frame
  | .stored frame => some frame
  | _ => none

def playedFrame : Happening → Option Frame
  | .played frame => some frame
  | _ => none

def droppedFrame : Happening → Option Frame
  | .dropped frame => some frame
  | _ => none

def skippedSlot : Happening → Option Int
  | .skipped number => some number
  | _ => none

def missedSlot : Happening → Option Int
  | .missed number => some number
  | _ => none

def startedSlot : Happening → Option Int
  | .started number => some number
  | _ => none

/-- The slots that playout gets back. -/
def slotsBack : Happening → Int
  | .rewound slots => slots
  | _ => 0

/-- The frames that a reset discards. -/
def discardedFrames : Happening → List Frame
  | .reset discarded => discarded
  | _ => []

def isReset : Happening → Bool
  | .reset _ => true
  | _ => false

/-- The numbers of the frames that leave the queue. -/
def removedNumbers : Happening → List Int
  | .played frame | .dropped frame => [frame.sequence]
  | .reset discarded => discarded.map Frame.sequence
  | _ => []

end Happening

/-! ### Moments of a run -/

/-- A state of the buffer with the call that came to it. -/
abbrev BufferMoment := JitterBuffer × BufferOp

namespace BufferMoment

def returned (moment : BufferMoment) : Returned := (moment.1.perform moment.2).1

def happened (moment : BufferMoment) : List Happening := (moment.1.perform moment.2).2.1

/-- The buffer after the call. -/
def after (moment : BufferMoment) : JitterBuffer := moment.1.step moment.2

/-- The frame of a put that returned Stored. -/
def storedFrame (moment : BufferMoment) : Option Frame :=
  match moment.2, returned moment with
  | .put sequence payload _, .put .stored => some { sequence, payload }
  | _, _ => none

/-- The frame of a pop that returned Played: the payload it handed over, under the number that the
buffer played last. -/
def playedFrame (moment : BufferMoment) : Option Frame :=
  match returned moment, (after moment).lastPlayed with
  | .pop (.played payload), some sequence => some { sequence, payload }
  | _, _ => none

def isStored (moment : BufferMoment) : Bool :=
  match returned moment with
  | .put .stored => true
  | _ => false

def isPlayed (moment : BufferMoment) : Bool :=
  match returned moment with
  | .pop (.played _) => true
  | _ => false

def isMissing (moment : BufferMoment) : Bool :=
  match returned moment with
  | .pop .missing => true
  | _ => false

def resets (moment : BufferMoment) : Bool := (happened moment).any Happening.isReset

def removedNumbers (moment : BufferMoment) : List Int :=
  (happened moment).flatMap Happening.removedNumbers

end BufferMoment

/-- The moments since the last one with a reset. -/
def sinceReset (history : List BufferMoment) : List BufferMoment :=
  history.rtakeWhile fun moment => !moment.resets

def happenings (history : List BufferMoment) : List Happening :=
  history.flatMap BufferMoment.happened

theorem happenings_concat (history : List BufferMoment) (moment : BufferMoment) :
    happenings (history ++ [moment]) = happenings history ++ moment.happened := by
  unfold happenings
  rw [flatMap_append, flatMap_singleton]

/-! ### What a call returns -/

namespace Happening

/-- What a pop may do before it plays a slot or finds it missing. -/
def Passes : Happening → Prop
  | .started _ | .dropped _ | .skipped _ => True
  | _ => False

/-- What a put may do before it stores its frame. -/
def Rejoins : Happening → Prop
  | .rewound _ | .reset _ => True
  | _ => False

end Happening

namespace JitterBuffer

variable (buffer : JitterBuffer)

theorem emplace_shape (frame : Frame) :
    (buffer.emplace frame).2.1 =
        (if (buffer.emplace frame).1 = .stored then [.stored frame] else []) ∧
      (buffer.emplace frame).2.2.next = buffer.next := by
  unfold emplace
  split <;> exact ⟨rfl, rfl⟩

theorem place_shape (frame : Frame) :
    (∃ early, (buffer.place frame).2.1 = early ++
        (if (buffer.place frame).1 = .stored then [.stored frame] else []) ∧
        ∀ happening ∈ early, happening.Rejoins ∧ happening.isReset = false) ∧
      (buffer.next = none → (buffer.place frame).2.2.next = none) := by
  have vacuous : ∀ happening ∈ ([] : List Happening),
      happening.Rejoins ∧ happening.isReset = false :=
    fun _ member => absurd member not_mem_nil
  unfold place
  split
  next idle =>
    obtain ⟨shape, kept⟩ := buffer.emplace_shape frame
    exact ⟨⟨[], shape, vacuous⟩, fun _ => kept.trans idle⟩
  next next point =>
    refine ⟨?_, fun idle => absurd (point.symm.trans idle) nofun⟩
    split
    · dsimp only
      split
      · exact ⟨[], rfl, vacuous⟩
      · obtain ⟨shape, -⟩ := (buffer.rewindTo frame.sequence).emplace_shape frame
        refine ⟨[.rewound (next - frame.sequence)], ?_, ?_⟩
        · rw [shape]
          rfl
        · intro happening member
          rw [mem_singleton.mp member]
          exact ⟨trivial, rfl⟩
    · exact ⟨[], (buffer.emplace_shape frame).1, vacuous⟩

/-- A put stores its frame last, when it does; and after a reset the playout point is not set. -/
theorem put_shape (sequence : Int) (payload : Bytes) (arrivalUs : Int) :
    ∃ early, (buffer.put sequence payload arrivalUs).2.1 = early ++
        (if (buffer.put sequence payload arrivalUs).1 = .stored then
          [.stored { sequence, payload }] else []) ∧
      (∀ happening ∈ early, happening.Rejoins) ∧
      ((∃ happening ∈ early, happening.isReset = true) →
        (buffer.put sequence payload arrivalUs).2.2.next = none) := by
  obtain ⟨⟨back, shape, rejoins⟩, kept⟩ :=
    ((buffer.rejoin sequence).2.recordTransit (arrivalUs - sequence * kFrameUs)).place_shape
      { sequence, payload }
  refine ⟨(buffer.rejoin sequence).1 ++ back, ?_, ?_, ?_⟩
  · rw [append_assoc]
    exact congrArg ((buffer.rejoin sequence).1 ++ ·) shape
  · intro happening member
    rcases mem_append.mp member with jumped | member
    · unfold rejoin at jumped
      split at jumped
      · rw [mem_singleton.mp jumped]
        trivial
      · exact absurd jumped not_mem_nil
    · exact (rejoins happening member).1
  · rintro ⟨happening, member, reset⟩
    apply kept
    show (buffer.rejoin sequence).2.next = none
    rcases mem_append.mp member with jumped | member
    · unfold rejoin at jumped ⊢
      split at jumped
      next far => rw [if_pos far]; rfl
      · exact absurd jumped not_mem_nil
    · exact absurd (reset.symm.trans (rejoins happening member).2) nofun

theorem shrink_passes (desired : Int) (rounds : Nat) (next offset : Int) :
    ∀ happening ∈ (buffer.shrink desired rounds next offset).1, happening.Passes := by
  induction rounds generalizing buffer next offset with
  | zero => exact fun _ member => absurd member not_mem_nil
  | succ rounds hypothesis =>
    unfold shrink
    split
    · split
      · intro happening member
        rcases mem_cons.mp member with rfl | member
        · trivial
        · exact hypothesis _ _ _ happening member
      · split
        · intro happening member
          rcases mem_cons.mp member with rfl | member
          · trivial
          · exact hypothesis _ _ _ happening member
        · exact fun _ member => absurd member not_mem_nil
    · exact fun _ member => absurd member not_mem_nil

/-- How a pop ends. -/
inductive Ends (after : JitterBuffer) : PopResult → List Happening → Prop
  | played (frame : Frame) (last : after.lastPlayed = some frame.sequence) :
      Ends after (.played frame.payload) [.played frame]
  | missed (number : Int) : Ends after .missing [.missed number]
  | rebuffered (number : Int) (discarded : List Frame) (idle : after.next = none) :
      Ends after .missing [.missed number, .reset discarded]
  | expanded : Ends after .expanded []
  | buffering : Ends after .buffering []

theorem take_ends (next : Int) :
    Ends (buffer.take next).2.2 (buffer.take next).1 (buffer.take next).2.1 := by
  unfold take
  split
  next frame found =>
    exact .played frame (congrArg some (OrderedMap.keyOf_of_find found).symm)
  · dsimp only
    split
    · exact .rebuffered next _ rfl
    · exact .missed next

theorem advance_shape (nowUs next : Int) :
    ∃ early late, (buffer.advance nowUs next).2.1 = early ++ late ∧
      (∀ happening ∈ early, happening.Passes) ∧
      Ends (buffer.advance nowUs next).2.2 (buffer.advance nowUs next).1 late := by
  unfold advance
  dsimp only
  split
  · exact ⟨[], [], rfl, fun _ member => absurd member not_mem_nil, .expanded⟩
  · exact ⟨_, _, rfl, buffer.shrink_passes _ _ _ _, take_ends _ _⟩

theorem pop_shape (nowUs : Int) :
    ∃ early late, (buffer.pop nowUs).2.1 = early ++ late ∧
      (∀ happening ∈ early, happening.Passes) ∧
      Ends (buffer.pop nowUs).2.2 (buffer.pop nowUs).1 late := by
  unfold pop
  split
  next next _ => exact buffer.advance_shape nowUs next
  · split
    · exact ⟨[], [], rfl, fun _ member => absurd member not_mem_nil, .buffering⟩
    next first _ =>
      split
      · exact ⟨[], [], rfl, fun _ member => absurd member not_mem_nil, .buffering⟩
      · obtain ⟨early, late, shape, passes, ends⟩ :=
          (buffer.startAt first.sequence).advance_shape nowUs first.sequence
        refine ⟨.started first.sequence :: early, late, ?_, ?_, ends⟩
        · exact congrArg (Happening.started first.sequence :: ·) shape
        · intro happening member
          rcases mem_cons.mp member with rfl | member
          · trivial
          · exact passes happening member

section Reading

variable {α : Type} (read : Happening → Option α)

theorem filterMap_put (quiet : ∀ happening : Happening, happening.Rejoins → read happening = none)
    (sequence : Int) (payload : Bytes) (arrivalUs : Int) :
    (buffer.put sequence payload arrivalUs).2.1.filterMap read =
      if (buffer.put sequence payload arrivalUs).1 = .stored then
        (read (.stored { sequence, payload })).toList else [] := by
  obtain ⟨early, shape, rejoins, -⟩ := buffer.put_shape sequence payload arrivalUs
  rw [shape, filterMap_append, filterMap_eq_nil_iff.mpr fun happening member =>
    quiet happening (rejoins happening member), nil_append]
  split
  · rw [filterMap_cons, filterMap_nil]
    cases read (.stored { sequence, payload }) <;> rfl
  · rfl

theorem filterMap_pop (quiet : ∀ happening : Happening, happening.Passes → read happening = none)
    (nowUs : Int) :
    ∃ late, (buffer.pop nowUs).2.1.filterMap read = late.filterMap read ∧
      Ends (buffer.pop nowUs).2.2 (buffer.pop nowUs).1 late := by
  obtain ⟨early, late, shape, passes, ends⟩ := buffer.pop_shape nowUs
  refine ⟨late, ?_, ends⟩
  rw [shape, filterMap_append, filterMap_eq_nil_iff.mpr fun happening member =>
    quiet happening (passes happening member), nil_append]

end Reading

end JitterBuffer

namespace BufferMoment

variable (moment : BufferMoment)

theorem filterMap_storedFrame :
    moment.happened.filterMap Happening.storedFrame = moment.storedFrame.toList := by
  obtain ⟨buffer, op⟩ := moment
  cases op with
  | put sequence payload arrivalUs =>
    refine (buffer.filterMap_put _ ?_ sequence payload arrivalUs).trans ?_
    · rintro ⟨⟩ rejoins <;> first | rfl | exact rejoins.elim
    · unfold storedFrame returned JitterBuffer.perform
      dsimp only
      cases (buffer.put sequence payload arrivalUs).1 <;> rfl
  | pop nowUs =>
    obtain ⟨late, same, ends⟩ := buffer.filterMap_pop Happening.storedFrame
      (by rintro ⟨⟩ passes <;> first | rfl | exact passes.elim) nowUs
    refine same.trans ?_
    generalize (buffer.pop nowUs).1 = result at ends
    cases ends <;> rfl
  | reset => rfl

theorem filterMap_playedFrame :
    moment.happened.filterMap Happening.playedFrame = moment.playedFrame.toList := by
  obtain ⟨buffer, op⟩ := moment
  cases op with
  | put sequence payload arrivalUs =>
    refine (buffer.filterMap_put _ ?_ sequence payload arrivalUs).trans (ite_self _)
    rintro ⟨⟩ rejoins <;> first | rfl | exact rejoins.elim
  | pop nowUs =>
    obtain ⟨late, same, ends⟩ := buffer.filterMap_pop Happening.playedFrame
      (by rintro ⟨⟩ passes <;> first | rfl | exact passes.elim) nowUs
    refine same.trans ?_
    unfold playedFrame returned after JitterBuffer.step JitterBuffer.perform
    dsimp only
    generalize (buffer.pop nowUs).1 = result at ends ⊢
    cases ends with
    | played frame last => rw [last]; rfl
    | missed | rebuffered | expanded | buffering => rfl
  | reset => rfl

theorem length_storedFrame :
    (moment.happened.filterMap Happening.storedFrame).length = moment.isStored.toNat := by
  rw [filterMap_storedFrame]
  obtain ⟨buffer, op⟩ := moment
  cases op with
  | put sequence payload arrivalUs =>
    unfold storedFrame isStored returned JitterBuffer.perform
    dsimp only
    cases (buffer.put sequence payload arrivalUs).1 <;> rfl
  | pop nowUs => rfl
  | reset => rfl

theorem length_playedFrame :
    (moment.happened.filterMap Happening.playedFrame).length = moment.isPlayed.toNat := by
  obtain ⟨buffer, op⟩ := moment
  cases op with
  | put sequence payload arrivalUs => rw [filterMap_playedFrame]; rfl
  | pop nowUs =>
    obtain ⟨late, same, ends⟩ := buffer.filterMap_pop Happening.playedFrame
      (by rintro ⟨⟩ passes <;> first | rfl | exact passes.elim) nowUs
    refine (congrArg List.length same).trans ?_
    unfold isPlayed returned JitterBuffer.perform
    dsimp only
    generalize (buffer.pop nowUs).1 = result at ends ⊢
    cases ends <;> rfl
  | reset => rfl

theorem length_missedSlot :
    (moment.happened.filterMap Happening.missedSlot).length = moment.isMissing.toNat := by
  obtain ⟨buffer, op⟩ := moment
  cases op with
  | put sequence payload arrivalUs =>
    have quiet : ∀ happening : Happening, happening.Rejoins → happening.missedSlot = none := by
      rintro ⟨⟩ rejoins <;> first | rfl | exact rejoins.elim
    exact congrArg List.length
      ((buffer.filterMap_put _ quiet sequence payload arrivalUs).trans (ite_self _))
  | pop nowUs =>
    obtain ⟨late, same, ends⟩ := buffer.filterMap_pop Happening.missedSlot
      (by rintro ⟨⟩ passes <;> first | rfl | exact passes.elim) nowUs
    refine (congrArg List.length same).trans ?_
    unfold isMissing returned JitterBuffer.perform
    dsimp only
    generalize (buffer.pop nowUs).1 = result at ends ⊢
    cases ends <;> rfl
  | reset => rfl

/-- After a call with a reset the playout point is not set. -/
theorem next_of_resets (resets : moment.resets = true) : moment.after.next = none := by
  obtain ⟨buffer, op⟩ := moment
  obtain ⟨happening, member, reset⟩ := any_eq_true.mp resets
  cases op with
  | put sequence payload arrivalUs =>
    obtain ⟨early, shape, -, cleared⟩ := buffer.put_shape sequence payload arrivalUs
    change happening ∈ (buffer.put sequence payload arrivalUs).2.1 at member
    rw [shape] at member
    rcases mem_append.mp member with member | member
    · exact cleared ⟨happening, member, reset⟩
    · split at member
      · rw [mem_singleton.mp member] at reset
        exact absurd reset nofun
      · exact absurd member not_mem_nil
  | pop nowUs =>
    obtain ⟨early, late, shape, passes, ends⟩ := buffer.pop_shape nowUs
    change happening ∈ (buffer.pop nowUs).2.1 at member
    rw [shape] at member
    rcases mem_append.mp member with member | member
    · have passing := passes happening member
      cases happening <;> first | exact passing.elim | exact absurd reset nofun
    · show (buffer.pop nowUs).2.2.next = none
      generalize (buffer.pop nowUs).1 = result at ends
      cases ends with
      | rebuffered number discarded idle => exact idle
      | played | missed =>
        rw [mem_singleton.mp member] at reset
        exact absurd reset nofun
      | expanded | buffering => exact absurd member not_mem_nil
  | reset => rfl

end BufferMoment

theorem filterMap_happenings {α : Type} {read : Happening → Option α}
    {readMoment : BufferMoment → Option α}
    (same : ∀ moment : BufferMoment, moment.happened.filterMap read = (readMoment moment).toList)
    (history : List BufferMoment) :
    (happenings history).filterMap read = history.filterMap readMoment := by
  induction history with
  | nil => rfl
  | cons moment history hypothesis =>
    have whole : happenings (moment :: history) = moment.happened ++ happenings history := rfl
    rw [whole, filterMap_append, hypothesis, same, filterMap_cons]
    cases readMoment moment <;> rfl

theorem length_happenings {α : Type} {read : Happening → Option α} {test : BufferMoment → Bool}
    (same : ∀ moment : BufferMoment, (moment.happened.filterMap read).length = (test moment).toNat)
    (history : List BufferMoment) :
    ((happenings history).filterMap read).length = history.countP test := by
  induction history with
  | nil => rfl
  | cons moment history hypothesis =>
    have whole : happenings (moment :: history) = moment.happened ++ happenings history := rfl
    rw [whole, filterMap_append, length_append, hypothesis, same,
      countP_cons]
    cases test moment
    · exact Nat.zero_add _
    · exact Nat.add_comm _ _

/-! ### Order -/

/-- The playout point stands behind the last frame played and in front of every frame queued. -/
structure Settled (playout : Playout) : Prop where
  queued : ∀ next, playout.next = some next →
    ∀ frame ∈ playout.frames.values, next ≤ frame.sequence
  played : ∀ next, playout.next = some next →
    ∀ last, playout.lastPlayed = some last → last < next
  idle : playout.next = none → playout.lastPlayed = none

theorem Settled.pass (settled : Settled first) {next : Int} (point : first.next = some next)
    (moved : second.next = some (next + 1))
    (fewer : ∀ frame ∈ second.frames.values, frame ∈ first.frames.values ∧ frame.sequence ≠ next)
    (last : second.lastPlayed = first.lastPlayed ∨ second.lastPlayed = some next) :
    Settled second := by
  refine ⟨fun point' same frame member => ?_, fun point' same number reached => ?_,
    fun idle => absurd (moved.symm.trans idle) nofun⟩
  all_goals
    rw [moved] at same
    obtain rfl := Option.some.inj same
  · obtain ⟨inside, apart⟩ := fewer frame member
    have least := settled.queued next point frame inside
    omega
  · rcases last with kept | moved
    · have before := settled.played next point number (kept.symm.trans reached)
      omega
    · obtain rfl := Option.some.inj (moved.symm.trans reached)
      omega

theorem Settled.move (settled : Settled first) (move : Move first happening second) :
    Settled second := by
  cases move with
  | stored absent ahead =>
    refine ⟨fun next point frame member => ?_, settled.played, settled.idle⟩
    rcases OrderedMap.mem_values_put.mp member with rfl | ⟨-, inside⟩
    · exact ahead next point
    · exact settled.queued next point frame inside
  | rewound point dry unplayed =>
    refine ⟨fun next _ frame member => ?_, fun next same last reached => ?_, nofun⟩
    · rw [dry] at member
      exact absurd member not_mem_nil
    · cases same
      exact unplayed last reached
  | started idle head =>
    refine ⟨fun next same frame member => ?_, fun next _ last reached => ?_, nofun⟩
    · cases same
      exact OrderedMap.head_le head member
    · rw [settled.idle idle] at reached
      cases reached
  | dropped point found =>
    exact settled.pass point rfl (fun _ member => OrderedMap.mem_values_erase.mp member)
      (Or.inl rfl)
  | skipped point absent | missed point absent =>
    exact settled.pass point rfl
      (fun _ member => ⟨member, OrderedMap.ne_of_find_eq_none absent member⟩) (Or.inl rfl)
  | played point found =>
    exact settled.pass point rfl (fun _ member => OrderedMap.mem_values_erase.mp member)
      (Or.inr rfl)
  | reset => exact ⟨nofun, nofun, fun _ => rfl⟩

theorem Settled.moves {happened : List Happening} (settled : Settled first)
    (moves : Moves first happened second) : Settled second :=
  @Moves.keep (fun _ => True) (fun _ => Settled) (fun settled _ move => settled.move move) []
    happened first second settled (fun _ _ => trivial) moves

/-- The frames played since the last reset come in the order of their numbers, up to the last
one. -/
structure Ascending (since : List Happening) (playout : Playout) : Prop where
  settled : Settled playout
  ordered : (since.filterMap Happening.playedFrame).Pairwise fun first second =>
    first.sequence < second.sequence
  reached : ∀ frame ∈ since.filterMap Happening.playedFrame,
    ∃ last, playout.lastPlayed = some last ∧ frame.sequence ≤ last

theorem Ascending.move {since : List Happening} (ascending : Ascending since first)
    (running : happening.isReset = false) (move : Move first happening second) :
    Ascending (since ++ [happening]) second := by
  refine ⟨ascending.settled.move move, ?_, ?_⟩
  all_goals rw [filterMap_append]
  · cases move with
    | played point found =>
      refine pairwise_append.mpr ⟨ascending.ordered, pairwise_singleton _ _, ?_⟩
      intro early member late same
      obtain ⟨last, played, least⟩ := ascending.reached early member
      rw [mem_singleton.mp same, OrderedMap.keyOf_of_find found]
      exact lt_of_le_of_lt least (ascending.settled.played _ point last played)
    | reset => cases running
    | stored | rewound | started | dropped | skipped | missed =>
      rw [filterMap_cons_none rfl, filterMap_nil, append_nil]
      exact ascending.ordered
  · intro frame member
    cases move with
    | played point found =>
      refine ⟨_, rfl, ?_⟩
      rcases mem_append.mp member with early | same
      · obtain ⟨last, played, least⟩ := ascending.reached frame early
        exact least.trans (le_of_lt (ascending.settled.played _ point last played))
      · rw [mem_singleton.mp same]
        exact le_of_eq (OrderedMap.keyOf_of_find found)
    | reset => cases running
    | stored | rewound | started | dropped | skipped | missed =>
      rw [filterMap_cons_none rfl, filterMap_nil, append_nil] at member
      exact ascending.reached frame member

/-! ### Slots -/

/-- The slots that playout has gone forward by. -/
def slotsPassed (happened : List Happening) : Int :=
  (happened.filterMap Happening.playedFrame).length +
    (happened.filterMap Happening.missedSlot).length +
    (happened.filterMap Happening.droppedFrame).length +
    (happened.filterMap Happening.skippedSlot).length - (happened.map Happening.slotsBack).sum

/-- Where playout started. -/
def origin (happened : List Happening) : Option Int := happened.findSome? Happening.startedSlot

theorem slotsPassed_append (early late : List Happening) :
    slotsPassed (early ++ late) = slotsPassed early + slotsPassed late := by
  unfold slotsPassed
  simp only [filterMap_append, length_append, map_append, sum_append]
  omega

/-- The playout point is as many slots past its origin as it has passed. -/
structure Slotted (since : List Happening) (playout : Playout) : Prop where
  point : playout.next = (origin since).map (· + slotsPassed since)
  still : origin since = none → slotsPassed since = 0

theorem Slotted.move {since : List Happening} (slotted : Slotted since first)
    (running : happening.isReset = false) (move : Move first happening second) :
    Slotted (since ++ [happening]) second := by
  have origins : origin (since ++ [happening]) = (origin since).or happening.startedSlot := by
    unfold origin
    rw [List.findSome?_append, List.findSome?_singleton]
  -- A move from a set playout point to another.
  have forward : ∀ next slots, first.next = some next → happening.startedSlot = none →
      slotsPassed [happening] = slots → second.next = some (next + slots) →
      Slotted (since ++ [happening]) second := by
    intro next slots point silent counted moved
    cases started : origin since with
    | none =>
      rw [slotted.point, started] at point
      cases point
    | some number =>
      rw [slotted.point, started] at point
      obtain rfl := Option.some.inj point
      refine ⟨?_, fun missing => ?_⟩
      · rw [origins, started, moved, slotsPassed_append, counted]
        simp only [Option.some_or, Option.map_some, Option.some.injEq]
        omega
      · rw [origins, started] at missing
        cases missing
  cases move with
  | @stored frame absent ahead =>
    have same : slotsPassed (since ++ [.stored frame]) = slotsPassed since :=
      (slotsPassed_append _ _).trans (Int.add_zero _)
    refine ⟨?_, fun missing => ?_⟩
    · rw [origins, same]
      exact slotted.point.trans (congrArg (Option.map _) (Option.or_none).symm)
    · rw [same]
      exact slotted.still (Option.or_none.symm.trans (origins.symm.trans missing))
  | @rewound next number point dry unplayed =>
    have counted : slotsPassed [.rewound (next - number)] = number - next := by
      show (0 : Int) + 0 + 0 + 0 - (next - number + 0) = number - next
      omega
    refine forward next (number - next) point rfl counted ?_
    exact congrArg some (by omega)
  | @started frame idle head =>
    have unstarted : origin since = none := by
      rw [slotted.point] at idle
      exact Option.map_eq_none_iff.mp idle
    have same : slotsPassed (since ++ [.started frame.sequence]) = 0 :=
      (slotsPassed_append _ _).trans ((Int.add_zero _).trans (slotted.still unstarted))
    refine ⟨?_, fun missing => ?_⟩
    · rw [origins, unstarted, same]
      exact congrArg some (Int.add_zero _).symm
    · rw [origins, unstarted] at missing
      cases missing
  | dropped point found => exact forward _ 1 point rfl rfl rfl
  | skipped point absent => exact forward _ 1 point rfl rfl rfl
  | played point found => exact forward _ 1 point rfl rfl rfl
  | missed point absent => exact forward _ 1 point rfl rfl rfl
  | reset => cases running

/-! ### Frames -/

/-- What is stored is queued, or has been played, dropped or discarded. -/
structure Balanced (history : List Happening) (playout : Playout) : Prop where
  frames : (history.filterMap Happening.storedFrame).length =
    (history.filterMap Happening.playedFrame).length + playout.dropped +
      playout.frames.values.length + (history.flatMap Happening.discardedFrames).length
  dropped : playout.dropped = (history.filterMap Happening.droppedFrame).length
  skipped : playout.skipped = (history.filterMap Happening.skippedSlot).length

theorem Balanced.move {history : List Happening} (balanced : Balanced history first)
    (move : Move first happening second) : Balanced (history ++ [happening]) second := by
  obtain ⟨frames, dropped, skipped⟩ := balanced
  constructor
  all_goals rw [filterMap_append, length_append]
  · rw [filterMap_append, length_append, flatMap_append, length_append]
    cases move with
    | @stored frame absent ahead =>
      have more := OrderedMap.length_put absent
      show _ + 1 = _ + 0 + first.dropped + (first.frames.put frame).values.length + (_ + 0)
      omega
    | @dropped next frame point found =>
      have fewer := OrderedMap.length_erase found
      show _ + 0 = _ + 0 + (first.dropped + 1) + (first.frames.erase next).values.length + (_ + 0)
      omega
    | @played next frame point found =>
      have fewer := OrderedMap.length_erase found
      show _ + 0 = _ + 1 + first.dropped + (first.frames.erase next).values.length + (_ + 0)
      omega
    | reset =>
      have all : ([Happening.reset first.frames.values].flatMap Happening.discardedFrames) =
          first.frames.values := append_nil _
      rw [all]
      show _ + 0 = _ + 0 + first.dropped + 0 + _
      omega
    | rewound | started | skipped | missed => exact frames
  · cases move with
    | dropped point found => exact congrArg (· + 1) dropped
    | stored | rewound | started | skipped | played | missed | reset => exact dropped
  · cases move with
    | skipped point absent => exact congrArg (· + 1) skipped
    | stored | rewound | started | dropped | played | missed | reset => exact skipped

/-! ### Where a played frame comes from -/

/-- A frame was stored by a put and has not left the queue since. -/
def StoredIn (history : List BufferMoment) (frame : Frame) : Prop :=
  ∃ before moment between, history = before ++ moment :: between ∧
    moment.storedFrame = some frame ∧ ∀ later ∈ between, frame.sequence ∉ later.removedNumbers

theorem Move.mem_frames {frame : Frame} (move : Move first happening second)
    (member : frame ∈ second.frames.values) :
    (frame ∈ first.frames.values ∧ frame.sequence ∉ happening.removedNumbers) ∨
      happening = .stored frame := by
  cases move with
  | stored absent ahead =>
    rcases OrderedMap.mem_values_put.mp member with rfl | ⟨-, inside⟩
    · exact Or.inr rfl
    · exact Or.inl ⟨inside, not_mem_nil⟩
  | dropped point found | played point found =>
    obtain ⟨inside, apart⟩ := OrderedMap.mem_values_erase.mp member
    refine Or.inl ⟨inside, fun removed => apart ?_⟩
    exact (mem_singleton.mp removed).trans (OrderedMap.keyOf_of_find found)
  | reset => exact absurd member not_mem_nil
  | rewound | started | skipped | missed => exact Or.inl ⟨member, not_mem_nil⟩

theorem Moves.mem_frames {happened : List Happening} {frame : Frame}
    (moves : Moves first happened second) (member : frame ∈ second.frames.values) :
    (frame ∈ first.frames.values ∧ frame.sequence ∉ happened.flatMap Happening.removedNumbers) ∨
      .stored frame ∈ happened := by
  induction moves with
  | nil => exact Or.inl ⟨member, not_mem_nil⟩
  | cons move _ hypothesis =>
    rcases hypothesis member with ⟨inside, kept⟩ | stored
    · rcases move.mem_frames inside with ⟨before, stays⟩ | rfl
      · refine Or.inl ⟨before, fun removed => ?_⟩
        rw [flatMap_cons] at removed
        rcases mem_append.mp removed with now | later
        · exact stays now
        · exact kept later
      · exact Or.inr mem_cons_self
    · exact Or.inr (mem_cons_of_mem _ stored)

/-- Every frame in the queue has a put that stored it. -/
theorem StoredIn.step {history : List BufferMoment} {buffer : JitterBuffer}
    (stored : ∀ frame ∈ buffer.frames.values, StoredIn history frame) (op : BufferOp) :
    ∀ frame ∈ (buffer.step op).frames.values, StoredIn (history ++ [(buffer, op)]) frame := by
  intro frame member
  rcases (buffer.perform_moves op).mem_frames member with ⟨inside, kept⟩ | now
  · obtain ⟨before, moment, between, rfl, put, stays⟩ := stored frame inside
    refine ⟨before, moment, between ++ [(buffer, op)], by simp, put, fun later among => ?_⟩
    rcases mem_append.mp among with among | last
    · exact stays later among
    · rw [mem_singleton.mp last]
      exact kept
  · have put : frame ∈ (BufferMoment.storedFrame (buffer, op)).toList := by
      rw [← BufferMoment.filterMap_storedFrame]
      exact mem_filterMap.mpr ⟨_, now, rfl⟩
    exact ⟨history, (buffer, op), [], rfl, Option.mem_toList.mp put,
      fun _ among => absurd among not_mem_nil⟩

/-- A frame that is played was queued before the pop, which does not drop it. -/
theorem BufferMoment.playedFrame_queued (moment : BufferMoment) {payload : Bytes}
    (played : moment.returned = .pop (.played payload)) :
    ∃ number, moment.after.lastPlayed = some number ∧
      { sequence := number, payload } ∈ moment.1.frames.values ∧
      ∀ dropped, .dropped dropped ∈ moment.happened → dropped.sequence ≠ number := by
  obtain ⟨buffer, op⟩ := moment
  cases op with
  | put sequence payload' arrivalUs => exact absurd played nofun
  | reset => exact absurd played nofun
  | pop nowUs =>
    obtain ⟨early, late, shape, passes, ends⟩ := buffer.pop_shape nowUs
    have result : (buffer.pop nowUs).1 = .played payload := Returned.pop.inj played
    have moves := buffer.pop_moves nowUs
    change ∃ number, (buffer.pop nowUs).2.2.lastPlayed = some number ∧ _ ∧
      ∀ dropped, .dropped dropped ∈ (buffer.pop nowUs).2.1 → _
    rw [result] at ends
    rw [shape] at moves ⊢
    obtain ⟨middle, passing, ending⟩ := moves.split
    cases ends with
    | played frame last =>
      cases ending with
      | cons move _ =>
        cases move with
        | played point found =>
          have inside := (OrderedMap.find_eq_some_iff.mp found).1
          rcases passing.mem_frames inside with ⟨queued, kept⟩ | stored
          · refine ⟨frame.sequence, last, queued, fun dropped among same => ?_⟩
            rcases mem_append.mp among with among | among
            · refine kept (mem_flatMap.mpr ⟨_, among, ?_⟩)
              exact same ▸ mem_singleton_self _
            · exact absurd (mem_singleton.mp among) nofun
          · exact (passes _ stored).elim

/-! ### Whole runs -/

/-- What holds since the last reset. -/
structure Tracked (history : List BufferMoment) (buffer : JitterBuffer) : Prop where
  ascending : Ascending (happenings (sinceReset history)) buffer.playout
  slotted : Slotted (happenings (sinceReset history)) buffer.playout

theorem Tracked.step {history : List BufferMoment} {buffer : JitterBuffer}
    (tracked : Tracked history buffer) (op : BufferOp) :
    Tracked (history ++ [(buffer, op)]) (buffer.step op) := by
  have moves := buffer.perform_moves op
  by_cases reset : BufferMoment.resets (buffer, op) = true
  · have empty : sinceReset (history ++ [(buffer, op)]) = [] := by
      unfold sinceReset
      rw [rtakeWhile_concat, reset]
      rfl
    constructor
    all_goals rw [empty]
    · exact ⟨tracked.ascending.settled.moves moves, List.Pairwise.nil,
        fun _ member => absurd member not_mem_nil⟩
    · exact ⟨BufferMoment.next_of_resets (buffer, op) reset, fun _ => rfl⟩
  · have longer : happenings (sinceReset (history ++ [(buffer, op)])) =
        happenings (sinceReset history) ++ BufferMoment.happened (buffer, op) := by
      unfold sinceReset
      rw [rtakeWhile_concat, Bool.eq_false_of_not_eq_true reset, ← happenings_concat]
      rfl
    have running : ∀ happening ∈ BufferMoment.happened (buffer, op),
        happening.isReset = false := fun happening member =>
      Bool.eq_false_of_not_eq_true fun found => reset (any_eq_true.mpr ⟨_, member, found⟩)
    constructor
    all_goals rw [longer]
    · exact Moves.keep (fun held allowed move => held.move allowed move) tracked.ascending running
        moves
    · exact Moves.keep (fun held allowed move => held.move allowed move) tracked.slotted running
        moves

section Runs

variable (initialDelayUs : Int) (ops : List BufferOp)

theorem tracked_run :
    Tracked (moments JitterBuffer.step (.create initialDelayUs) ops)
      (run JitterBuffer.step (.create initialDelayUs) ops) := by
  refine moments_keep Tracked ?_ (fun _ _ op tracked => tracked.step op) ops
  exact ⟨⟨⟨nofun, nofun, fun _ => rfl⟩, List.Pairwise.nil,
    fun _ member => absurd member not_mem_nil⟩, ⟨rfl, fun _ => rfl⟩⟩

theorem balanced_run :
    Balanced (happenings (moments JitterBuffer.step (.create initialDelayUs) ops))
      (run JitterBuffer.step (.create initialDelayUs) ops).playout := by
  refine moments_keep (fun history buffer => Balanced (happenings history) buffer.playout)
    ⟨rfl, rfl, rfl⟩ (fun history buffer op balanced => ?_) ops
  rw [happenings_concat]
  exact @Moves.keep (fun _ => True) _ (fun held _ move => held.move move) _ _ _ _ balanced
    (fun _ _ => trivial) (buffer.perform_moves op)

/-- A pop that plays a frame plays one that was stored before and is not dropped by it. -/
def FromStored (past : List BufferMoment) (moment : BufferMoment) : Prop :=
  ∀ payload, moment.returned = .pop (.played payload) →
    ∃ number, moment.after.lastPlayed = some number ∧
      StoredIn past { sequence := number, payload } ∧
      ∀ dropped, .dropped dropped ∈ moment.happened → dropped.sequence ≠ number

theorem fromStored_run :
    Each FromStored (moments JitterBuffer.step (.create initialDelayUs) ops) := by
  refine (moments_keep (fun history buffer =>
    (∀ frame ∈ buffer.frames.values, StoredIn history frame) ∧ Each FromStored history)
    ⟨fun _ member => absurd member not_mem_nil, ?_⟩ ?_ ops).2
  · exact Each.of_forall fun _ member => absurd member not_mem_nil
  · rintro history buffer op ⟨stored, each⟩
    refine ⟨StoredIn.step stored op, each.concat fun payload played => ?_⟩
    obtain ⟨number, last, queued, apart⟩ := BufferMoment.playedFrame_queued (buffer, op) played
    exact ⟨number, last, stored _ queued, apart⟩

end Runs

/-- Frames are played in the order of their numbers from one reset to the next. Each of them was
stored by a put with this number and payload and neither played nor dropped since. And while the
playout point is set, everything queued is at it or ahead, and ahead of what was played. -/
theorem played_in_order (initialDelayUs : Int) (ops : List BufferOp) :
    let history := moments JitterBuffer.step (.create initialDelayUs) ops
    let buffer := run JitterBuffer.step (.create initialDelayUs) ops
    (((sinceReset history).filterMap BufferMoment.playedFrame).Pairwise fun first second =>
        first.sequence < second.sequence) ∧
      Each FromStored history ∧
      ∀ next, buffer.next = some next → ∀ frame ∈ buffer.frames.values,
        next ≤ frame.sequence ∧ ∀ last, buffer.lastPlayed = some last → last < frame.sequence := by
  intro history buffer
  have tracked := tracked_run initialDelayUs ops
  refine ⟨?_, fromStored_run initialDelayUs ops, ?_⟩
  · rw [← filterMap_happenings BufferMoment.filterMap_playedFrame]
    exact tracked.ascending.ordered
  · intro next point frame member
    have ahead := tracked.ascending.settled.queued next point frame member
    refine ⟨ahead, fun last reached => ?_⟩
    exact lt_of_lt_of_le (tracked.ascending.settled.played next point last reached) ahead

/-- The puts that returned Stored are the pops that returned Played and the frames dropped, queued
and discarded. And from one reset to the next the playout point has passed one slot for each pop
that returned Played or Missing, each frame dropped and each slot skipped, less the slots given
back. -/
theorem frames_and_slots_conserved (initialDelayUs : Int) (ops : List BufferOp) :
    let history := moments JitterBuffer.step (.create initialDelayUs) ops
    let buffer := run JitterBuffer.step (.create initialDelayUs) ops
    let since := sinceReset history
    history.countP BufferMoment.isStored =
        history.countP BufferMoment.isPlayed + buffer.dropped + buffer.size +
          ((happenings history).flatMap Happening.discardedFrames).length ∧
      buffer.dropped = ((happenings history).filterMap Happening.droppedFrame).length ∧
      buffer.skipped = ((happenings history).filterMap Happening.skippedSlot).length ∧
      ∀ next, buffer.next = some next →
        ∃ first, (happenings since).findSome? Happening.startedSlot = some first ∧
          next - first =
            since.countP BufferMoment.isPlayed + since.countP BufferMoment.isMissing +
              ((happenings since).filterMap Happening.droppedFrame).length +
              ((happenings since).filterMap Happening.skippedSlot).length -
              ((happenings since).map Happening.slotsBack).sum := by
  intro history buffer since
  have balanced := balanced_run initialDelayUs ops
  refine ⟨?_, balanced.dropped, balanced.skipped, fun next point => ?_⟩
  · rw [← length_happenings BufferMoment.length_storedFrame,
      ← length_happenings BufferMoment.length_playedFrame]
    exact balanced.frames
  · obtain ⟨reached, -⟩ := (tracked_run initialDelayUs ops).slotted
    obtain ⟨first, started, rfl⟩ := Option.map_eq_some_iff.mp (reached.symm.trans point)
    refine ⟨first, started, ?_⟩
    rw [← length_happenings BufferMoment.length_playedFrame,
      ← length_happenings BufferMoment.length_missedSlot, Int.add_comm, Int.add_sub_cancel]
    rfl

end KetPhone.Media
