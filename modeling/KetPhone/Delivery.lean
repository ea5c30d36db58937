/-
This file follows the jitter buffer through a lossless stream. Frame `n` is sent at
20 ms times `n` and arrives after a transit in a band of 10 ms; pops come every
20 ms at any phase, and everything that has arrived is put first.

The fastest transit in the window lies in the band, and the delay on top of it is
between the margin and the largest delay, so a slot is only due once its frame must
have arrived: the margin covers the whole band. Frames arrive in the order of their
numbers, so the queue is always the run of numbers from the playout point to the
last arrival. Whatever the window holds, a pop then repeats a frame, plays the next
one, or drops one and plays the one after it, and playout never falls far enough
behind the stream for a reset.
-/

import KetPhone.Playout

namespace KetPhone.Media

open List

/-! ### The window -/

theorem clampDelay_bounds (delay : Int) :
    kMarginUs ≤ clampDelay delay ∧ clampDelay delay ≤ kMaxDelayUs := by
  unfold clampDelay kMarginUs kMaxDelayUs
  omega

/-- The window after a number of puts with transits in a band. -/
structure Windowed (low high : Int) (heard : Nat) (buffer : JitterBuffer) : Prop where
  length : buffer.window.length = kWindow
  count : buffer.windowCount = min heard kWindow
  next : buffer.windowNext = heard % kWindow
  band : ∀ sample ∈ buffer.samples, low ≤ sample ∧ sample ≤ high

variable {low high : Int} {heard lowest : Nat} {buffer : JitterBuffer}

theorem Windowed.recordTransit (windowed : Windowed low high heard buffer) {transitUs : Int}
    (inside : low ≤ transitUs ∧ transitUs ≤ high) :
    Windowed low high (heard + 1) (buffer.recordTransit transitUs) := by
  obtain ⟨length, count, next, band⟩ := windowed
  unfold kWindow at length count next
  refine ⟨?_, ?_, ?_, fun sample member => ?_⟩
  · exact length_set.trans length
  · show min (buffer.windowCount + 1) 250 = min (heard + 1) 250
    omega
  · show (buffer.windowNext + 1) % 250 = (heard + 1) % 250
    omega
  · change sample ∈ (buffer.window.set buffer.windowNext transitUs).take
      (min (buffer.windowCount + 1) 250) at member
    rcases Nat.lt_or_ge heard 250 with short | full
    · -- The samples are recorded one behind the other.
      have place : buffer.windowNext = buffer.windowCount := by omega
      rw [show min (buffer.windowCount + 1) 250 = buffer.windowCount + 1 by omega, place,
        take_set_concat _ _ _ (by omega)] at member
      rcases mem_append.mp member with early | last
      · exact band sample early
      · rw [mem_singleton.mp last]
        exact inside
    · have whole : buffer.samples = buffer.window :=
        take_of_length_le (by omega)
      rcases mem_or_eq_of_mem_set (mem_of_mem_take member) with old | rfl
      · exact band sample (whole ▸ old)
      · exact inside

theorem Windowed.fastest_bounds (windowed : Windowed low high heard buffer) (positive : 0 < heard) :
    low ≤ buffer.fastest ∧ buffer.fastest ≤ high := by
  have filled : buffer.samples ≠ [] := by
    have length := windowed.length
    have count := windowed.count
    unfold kWindow at length count
    intro empty
    have short := congrArg List.length empty
    unfold JitterBuffer.samples at short
    rw [length_take, length_nil] at short
    omega
  obtain ⟨least, found⟩ := Option.isSome_iff_exists.mp (isSome_min?_of_ne_nil filled)
  have member : least ∈ buffer.samples := List.min?_mem found
  unfold JitterBuffer.fastest
  rw [found]
  exact windowed.band least member

theorem Windowed.desired_bounds (windowed : Windowed low high heard buffer) (positive : 0 < heard) :
    low + kMarginUs ≤ buffer.desiredOffsetUs ∧ buffer.desiredOffsetUs ≤ high + kMaxDelayUs := by
  have fastest := windowed.fastest_bounds positive
  unfold JitterBuffer.desiredOffsetUs
  dsimp only
  generalize (if buffer.windowCount < kWarmup then _ else _ : Int) = delay
  have clamped := clampDelay_bounds delay
  omega

/-! ### One pop -/

namespace JitterBuffer

variable (buffer)

theorem advance_grow (nowUs next : Int)
    (growing : nowUs - next * kFrameUs < buffer.desiredOffsetUs) :
    buffer.advance nowUs next =
      (.expanded, [], { buffer with expanded := buffer.expanded + 1 }.countPop) := by
  unfold advance
  exact if_pos growing

theorem shrink_still (desired : Int) (rounds : Nat) (next offset : Int) {frame : Frame}
    (found : buffer.frames.find next = some frame)
    (still : offset ≤ desired + kShrinkAboveUs ∨ buffer.popsSinceDrop < kPopsBetweenDrops) :
    buffer.shrink desired rounds next offset = ([], next, buffer) := by
  cases rounds with
  | zero => rfl
  | succ rounds =>
    unfold shrink
    split
    next above =>
      rw [found]
      dsimp only
      rw [if_neg]
      rcases still with close | recent
      · exact absurd above.1 (not_lt.mpr close)
      · exact not_le.mpr recent
    · rfl

theorem take_found (next : Int) {frame : Frame} (found : buffer.frames.find next = some frame) :
    buffer.take next = (.played frame.payload, [.played frame], buffer.playSlot next) := by
  unfold take
  rw [found]

theorem advance_play (nowUs next : Int) {frame : Frame}
    (found : buffer.frames.find next = some frame)
    (due : buffer.desiredOffsetUs ≤ nowUs - next * kFrameUs)
    (still : nowUs - next * kFrameUs ≤ buffer.desiredOffsetUs + kShrinkAboveUs ∨
      buffer.popsSinceDrop < kPopsBetweenDrops) :
    buffer.advance nowUs next =
      (.played frame.payload, [.played frame], buffer.countPop.playSlot next) := by
  unfold advance
  dsimp only
  rw [if_neg (not_lt.mpr due), buffer.shrink_still _ _ next _ found still]
  dsimp only
  rw [take_found _ next (show buffer.countPop.frames.find next = some frame from found)]
  rfl

theorem rounds_succ {desired offset : Int} (above : offset > desired + kShrinkAboveUs) :
    ∃ more, rounds desired offset = more + 1 := by
  unfold rounds kFrameUs
  exact ⟨((offset - desired - kShrinkAboveUs) / 20000).toNat, by omega⟩

theorem shrink_drop (desired : Int) (rounds : Nat) (next offset : Int) {frame : Frame}
    (found : buffer.frames.find next = some frame)
    (above : offset > desired + kShrinkAboveUs) (due : buffer.popsSinceDrop ≥ kPopsBetweenDrops) :
    buffer.shrink desired (rounds + 1) next offset =
      (.dropped frame ::
          ((buffer.dropFrame next).shrink desired rounds (next + 1) (offset - kFrameUs)).1,
        ((buffer.dropFrame next).shrink desired rounds (next + 1) (offset - kFrameUs)).2) := by
  have filled : (!buffer.frames.values.isEmpty) = true := by
    cases values : buffer.frames.values with
    | nil =>
      have member := (OrderedMap.find_eq_some_iff.mp found).1
      rw [values] at member
      exact absurd member not_mem_nil
    | cons _ _ => rfl
  rw [shrink, if_pos ⟨above, filled⟩, found]
  dsimp only
  rw [if_pos due]

/-- A frame is dropped and the next one is played. -/
theorem advance_drop (nowUs next : Int) {frame other : Frame}
    (found : buffer.frames.find next = some frame)
    (behind : buffer.frames.find (next + 1) = some other)
    (above : nowUs - next * kFrameUs > buffer.desiredOffsetUs + kShrinkAboveUs)
    (due : buffer.popsSinceDrop ≥ kPopsBetweenDrops) :
    buffer.advance nowUs next =
      (.played other.payload, [.dropped frame, .played other],
        (buffer.dropFrame next).countPop.playSlot (next + 1)) := by
  have kept : (buffer.dropFrame next).frames.find (next + 1) = some other := by
    show (buffer.frames.erase next).find (next + 1) = _
    rw [OrderedMap.find_erase, if_neg (by omega), behind]
  obtain ⟨more, rounds⟩ := rounds_succ above
  unfold advance
  dsimp only
  rw [if_neg (by unfold kShrinkAboveUs kFrameUs at *; omega), rounds,
    buffer.shrink_drop _ _ next _ found above due,
    (buffer.dropFrame next).shrink_still _ _ _ _ kept (Or.inr (Nat.succ_pos _))]
  dsimp only
  rw [take_found _ (next + 1)
    (show (buffer.dropFrame next).countPop.frames.find (next + 1) = some other from kept)]
  rfl

/-- The last frame of the queue is dropped, and the slot behind it is missing. -/
theorem advance_drop_last (nowUs next : Int) {frame : Frame}
    (found : buffer.frames.find next = some frame)
    (last : (buffer.frames.erase next).values = [])
    (above : nowUs - next * kFrameUs > buffer.desiredOffsetUs + kShrinkAboveUs)
    (due : buffer.popsSinceDrop ≥ kPopsBetweenDrops) :
    buffer.advance nowUs next =
      (((buffer.dropFrame next).countPop.take (next + 1)).1,
        .dropped frame :: ((buffer.dropFrame next).countPop.take (next + 1)).2.1,
        ((buffer.dropFrame next).countPop.take (next + 1)).2.2) := by
  have ended : ∀ more offset, (buffer.dropFrame next).shrink buffer.desiredOffsetUs more (next + 1)
      offset = ([], next + 1, buffer.dropFrame next) := by
    intro more offset
    cases more with
    | zero => rfl
    | succ more =>
      have empty : (buffer.dropFrame next).frames.values = [] := last
      rw [shrink, empty, if_neg (by simp)]
  obtain ⟨more, rounds⟩ := rounds_succ above
  unfold advance
  dsimp only
  rw [if_neg (by unfold kShrinkAboveUs kFrameUs at *; omega), rounds,
    buffer.shrink_drop _ _ next _ found above due, ended]
  rfl

end JitterBuffer

/-- The frame that leaves the queue in its turn, played or dropped. -/
def Happening.consumedNumber : Happening → Option Int
  | .played frame | .dropped frame => some frame.sequence
  | _ => none

/-- Nothing is consumed from an empty queue until something is stored. -/
theorem Moves.of_empty {first second : Playout} {happened : List Happening}
    (moves : Moves first happened second) (empty : first.frames.values = [])
    (quiet : happened.filterMap Happening.storedFrame = []) :
    second.frames.values = [] ∧ happened.filterMap Happening.consumedNumber = [] := by
  have absent : ∀ {map : OrderedMap Frame.sequence} {number : Int} {frame : Frame},
      map.values = [] → map.find number ≠ some frame := by
    intro map number frame cleared found
    have member := (OrderedMap.find_eq_some_iff.mp found).1
    rw [cleared] at member
    exact absurd member not_mem_nil
  induction moves with
  | nil => exact ⟨empty, rfl⟩
  | cons move _ hypothesis =>
    cases move with
    | stored => cases quiet
    | dropped point found => exact absurd found (absent empty)
    | played point found => exact absurd found (absent empty)
    | reset => exact hypothesis rfl quiet
    | rewound | started | skipped | missed => exact hypothesis empty quiet

theorem JitterBuffer.pop_empty (nowUs : Int) (empty : buffer.frames.values = []) :
    (buffer.pop nowUs).2.2.frames.values = [] ∧
      (buffer.pop nowUs).2.1.filterMap Happening.consumedNumber = [] :=
  (buffer.pop_moves nowUs).of_empty empty
    (BufferMoment.filterMap_storedFrame (buffer, .pop nowUs))

/-! ### The queue of a stream without loss -/

/-- The first `heard` frames of a stream have been put, and those before `lowest` have left the
queue. -/
structure Steady (low high : Int) (lowest heard : Nat) (buffer : JitterBuffer) : Prop
    extends Windowed low high heard buffer where
  holds : ∀ number : Nat, lowest ≤ number → number < heard →
    ∃ frame, buffer.frames.find (number : Int) = some frame
  only : ∀ frame ∈ buffer.frames.values,
    ∃ number : Nat, lowest ≤ number ∧ number < heard ∧ frame.sequence = number
  reached : lowest ≤ heard
  point : (buffer.next = none ∧ lowest = 0) ∨
    (buffer.next = some (lowest : Int) ∧ 0 < heard)

/-- The queue when a frame was put last. -/
def JitterBuffer.enqueue (frame : Frame) (buffer : JitterBuffer) : JitterBuffer :=
  { buffer with frames := buffer.frames.put frame }

/-- A new frame at the playout point or not far ahead of it is stored. -/
theorem JitterBuffer.put_ahead (sequence : Int) (payload : Bytes) (arrivalUs : Int)
    (near : ∀ next, buffer.next = some next → next ≤ sequence ∧ sequence - next ≤ kMaxAhead)
    (absent : buffer.frames.find sequence = none) :
    buffer.put sequence payload arrivalUs =
      (.stored, [.stored { sequence, payload }],
        (buffer.recordTransit (arrivalUs - sequence * kFrameUs)).enqueue
          { sequence, payload }) := by
  have kept : (buffer.recordTransit (arrivalUs - sequence * kFrameUs)).next = buffer.next := rfl
  have emplaced : (buffer.recordTransit (arrivalUs - sequence * kFrameUs)).emplace
      { sequence, payload } =
      (.stored, [.stored { sequence, payload }],
        (buffer.recordTransit (arrivalUs - sequence * kFrameUs)).enqueue
          { sequence, payload }) := by
    have same : (buffer.recordTransit (arrivalUs - sequence * kFrameUs)).frames = buffer.frames :=
      rfl
    unfold emplace
    rw [same, absent]
    rfl
  unfold put rejoin place
  cases point : buffer.next with
  | none =>
    simp only [Option.any_none, Bool.false_eq_true, if_false, kept, point, emplaced, nil_append]
  | some next =>
    obtain ⟨ahead, close⟩ := near next point
    simp only [Option.any_some, decide_eq_true_eq, not_lt.mpr close, gt_iff_lt, if_false, kept,
      point, not_lt.mpr ahead, emplaced, nil_append]

/-- The next frame of the stream is stored behind the others. -/
theorem Steady.put_eq (steady : Steady low high lowest heard buffer) (payload : Bytes)
    (arrivalUs : Int) (close : buffer.next ≠ none → (heard : Int) - lowest ≤ kMaxAhead) :
    buffer.put heard payload arrivalUs =
      (.stored, [.stored { sequence := heard, payload }],
        (buffer.recordTransit (arrivalUs - heard * kFrameUs)).enqueue
          { sequence := heard, payload }) := by
  have reached := steady.reached
  refine JitterBuffer.put_ahead heard payload arrivalUs (fun next point => ?_) ?_
  · have near := close (by rw [point]; exact nofun)
    rcases steady.point with ⟨idle, -⟩ | ⟨same, -⟩
    · rw [idle] at point
      cases point
    · obtain rfl := Option.some.inj (same.symm.trans point)
      omega
  · cases found : buffer.frames.find (heard : Int) with
    | none => rfl
    | some frame =>
      obtain ⟨member, same⟩ := OrderedMap.find_eq_some_iff.mp found
      obtain ⟨number, -, before, sequence⟩ := steady.only frame member
      omega

theorem Steady.put (steady : Steady low high lowest heard buffer) (payload : Bytes)
    {arrivalUs : Int} (band : low ≤ arrivalUs - heard * kFrameUs ∧
      arrivalUs - heard * kFrameUs ≤ high) :
    Steady low high lowest (heard + 1)
      ((buffer.recordTransit (arrivalUs - heard * kFrameUs)).enqueue
        { sequence := heard, payload }) := by
  have recorded := steady.toWindowed.recordTransit band
  refine { recorded with holds := ?_, only := ?_, reached := ?_, point := ?_ }
  · intro number above before
    show ∃ frame, (buffer.frames.put _).find _ = some frame
    rw [OrderedMap.find_put]
    split
    · exact ⟨_, rfl⟩
    next other => exact steady.holds number above (by dsimp only at other; omega)
  · intro frame member
    rcases OrderedMap.mem_values_put.mp member with rfl | ⟨-, inside⟩
    · exact ⟨heard, steady.reached, Nat.lt_succ_self _, rfl⟩
    · obtain ⟨number, above, before, same⟩ := steady.only frame inside
      exact ⟨number, above, Nat.lt_succ_of_lt before, same⟩
  · exact Nat.le_succ_of_le steady.reached
  · exact steady.point.imp_right fun point => ⟨point.1, Nat.succ_pos _⟩

/-- A frame leaves the queue at the playout point. -/
theorem Steady.pass (steady : Steady low high lowest heard buffer) (inside : lowest < heard)
    {after : JitterBuffer} (frames : after.frames = buffer.frames.erase lowest)
    (next : after.next = some ((lowest : Int) + 1)) (window : after.window = buffer.window)
    (count : after.windowCount = buffer.windowCount) (slot : after.windowNext = buffer.windowNext) :
    Steady low high (lowest + 1) heard after := by
  refine ⟨⟨window ▸ steady.length, count ▸ steady.count, slot ▸ steady.next, ?_⟩, ?_, ?_, inside,
    Or.inr ⟨by rw [next]; rfl, Nat.zero_lt_of_lt inside⟩⟩
  · unfold JitterBuffer.samples
    rw [window, count]
    exact steady.band
  · intro number above before
    rw [frames, OrderedMap.find_erase, if_neg (by omega)]
    exact steady.holds number (by omega) before
  · intro frame member
    rw [frames] at member
    obtain ⟨kept, apart⟩ := OrderedMap.mem_values_erase.mp member
    obtain ⟨number, above, before, same⟩ := steady.only frame kept
    exact ⟨number, by omega, before, same⟩

/-- What a pop says first when it sets the playout point. -/
def starting (lowest : Nat) (buffer : JitterBuffer) : List Happening :=
  if buffer.next = none then [.started lowest] else []

/-- What a pop does to a queue without gaps. -/
inductive PopStep (lowest heard : Nat) (nowUs : Int) (buffer : JitterBuffer) :
    Nat → PopResult × List Happening × JitterBuffer → Prop
  | waits (idle : buffer.next = none) (early : heard = 0 ∨ nowUs < buffer.desiredOffsetUs) :
      PopStep lowest heard nowUs buffer lowest (.buffering, [], buffer)
  | grows (point : buffer.next = some (lowest : Int))
      (early : nowUs - lowest * kFrameUs < buffer.desiredOffsetUs) :
      PopStep lowest heard nowUs buffer lowest
        (.expanded, [], { buffer with expanded := buffer.expanded + 1 }.countPop)
  | plays {frame : Frame} (found : buffer.frames.find (lowest : Int) = some frame)
      (inside : lowest < heard) (due : buffer.desiredOffsetUs ≤ nowUs - lowest * kFrameUs)
      (still : nowUs - lowest * kFrameUs ≤ buffer.desiredOffsetUs + kShrinkAboveUs ∨
        buffer.popsSinceDrop < kPopsBetweenDrops) :
      PopStep lowest heard nowUs buffer (lowest + 1)
        (.played frame.payload, starting lowest buffer ++ [.played frame],
          (buffer.startAt lowest).countPop.playSlot lowest)
  | drops {frame other : Frame} (found : buffer.frames.find (lowest : Int) = some frame)
      (behind : buffer.frames.find ((lowest : Int) + 1) = some other)
      (inside : lowest + 1 < heard)
      (above : nowUs - lowest * kFrameUs > buffer.desiredOffsetUs + kShrinkAboveUs)
      (due : buffer.popsSinceDrop ≥ kPopsBetweenDrops) :
      PopStep lowest heard nowUs buffer (lowest + 2)
        (.played other.payload, starting lowest buffer ++ [.dropped frame, .played other],
          ((buffer.startAt lowest).dropFrame lowest).countPop.playSlot (lowest + 1))
  | ends {frame : Frame} {after : PopResult × List Happening × JitterBuffer}
      (found : buffer.frames.find (lowest : Int) = some frame) (last : lowest + 1 = heard)
      (above : nowUs - lowest * kFrameUs > buffer.desiredOffsetUs + kShrinkAboveUs)
      (consumed : after.2.1.filterMap Happening.consumedNumber = [(lowest : Int)])
      (empty : after.2.2.frames.values = []) :
      PopStep lowest heard nowUs buffer (lowest + 1) after

theorem starting_consumed (lowest : Nat) (buffer : JitterBuffer) :
    (starting lowest buffer).filterMap Happening.consumedNumber = [] := by
  unfold starting
  split <;> rfl

theorem JitterBuffer.Ends.filterMap_storedFrame {after : JitterBuffer} {result : PopResult}
    {late : List Happening} (ends : Ends after result late) :
    late.filterMap Happening.storedFrame = [] := by
  cases ends <;> rfl

theorem Steady.erase_last (steady : Steady low high lowest heard buffer)
    (last : lowest + 1 = heard) : (buffer.frames.erase lowest).values = [] := by
  refine eq_nil_iff_forall_not_mem.mpr fun frame member => ?_
  obtain ⟨kept, apart⟩ := OrderedMap.mem_values_erase.mp member
  obtain ⟨number, above, before, same⟩ := steady.only frame kept
  omega

/-- A pop at the playout point, once the slot is due and its frame has come. -/
theorem Steady.advance_step (steady : Steady low high lowest heard buffer) (nowUs : Int)
    (inside : lowest < heard) (due : buffer.desiredOffsetUs ≤ nowUs - lowest * kFrameUs) :
    ∃ after, PopStep lowest heard nowUs buffer after
      (((buffer.startAt lowest).advance nowUs lowest).1,
        starting lowest buffer ++ ((buffer.startAt lowest).advance nowUs lowest).2.1,
        ((buffer.startAt lowest).advance nowUs lowest).2.2) := by
  obtain ⟨frame, found⟩ := steady.holds lowest (Nat.le_refl _) inside
  by_cases still : nowUs - lowest * kFrameUs ≤ buffer.desiredOffsetUs + kShrinkAboveUs ∨
      buffer.popsSinceDrop < kPopsBetweenDrops
  · rw [(buffer.startAt lowest).advance_play nowUs lowest found due still]
    exact ⟨_, .plays found inside due still⟩
  · rw [not_or, not_le, not_lt] at still
    obtain ⟨above, waited⟩ := still
    rcases Nat.lt_or_ge (lowest + 1) heard with more | last
    · obtain ⟨other, behind⟩ := steady.holds (lowest + 1) (Nat.le_succ _) more
      change buffer.frames.find ((lowest : Int) + 1) = some other at behind
      rw [(buffer.startAt lowest).advance_drop nowUs lowest found behind above waited]
      exact ⟨_, .drops found behind more above waited⟩
    · have last : lowest + 1 = heard := Nat.le_antisymm inside last
      have empty := steady.erase_last last
      rw [(buffer.startAt lowest).advance_drop_last nowUs lowest found empty above waited]
      have unstored := JitterBuffer.take_ends
        ((buffer.startAt lowest).dropFrame lowest).countPop (lowest + 1)
      obtain ⟨ended, quiet⟩ := (JitterBuffer.take_moves
        ((buffer.startAt lowest).dropFrame lowest).countPop (lowest + 1) rfl).of_empty empty
          unstored.filterMap_storedFrame
      refine ⟨_, .ends found last above ?_ ended⟩
      rw [filterMap_append, starting_consumed, nil_append, filterMap_cons_some
        (show Happening.consumedNumber (.dropped frame) = some frame.sequence from rfl), quiet,
        OrderedMap.keyOf_of_find found]

/-- A pop of a queue without gaps. -/
theorem Steady.pop_step (steady : Steady low high lowest heard buffer) (nowUs : Int)
    (arrived : 0 < heard → buffer.desiredOffsetUs ≤ nowUs - lowest * kFrameUs → lowest < heard) :
    ∃ after, PopStep lowest heard nowUs buffer after (buffer.pop nowUs) := by
  unfold JitterBuffer.pop
  rcases steady.point with ⟨idle, rfl⟩ | ⟨point, positive⟩
  · rw [idle]
    dsimp only
    have starts : starting 0 buffer = [.started 0] := if_pos idle
    cases head : buffer.frames.values.head? with
    | none =>
      refine ⟨0, .waits idle (Or.inl ?_)⟩
      rcases Nat.eq_zero_or_pos heard with unheard | positive
      · exact unheard
      · obtain ⟨frame, found⟩ := steady.holds 0 (Nat.le_refl _) positive
        have member := (OrderedMap.find_eq_some_iff.mp found).1
        rw [List.head?_eq_none_iff.mp head] at member
        exact absurd member not_mem_nil
    | some first =>
      -- The first frame of the queue is that of the first slot.
      obtain ⟨number, -, before, same⟩ := steady.only first (mem_of_mem_head? head)
      have positive := Nat.zero_lt_of_lt before
      have sequence : first.sequence = 0 := by
        obtain ⟨frame, found⟩ := steady.holds 0 (Nat.le_refl _) positive
        obtain ⟨member, zero⟩ := OrderedMap.find_eq_some_iff.mp found
        have least := OrderedMap.head_le head member
        rw [zero] at least
        omega
      dsimp only
      rw [sequence]
      split
      next early => exact ⟨0, .waits idle (Or.inr (by omega))⟩
      next due =>
        obtain ⟨after, step⟩ := steady.advance_step nowUs positive (not_lt.mp due)
        rw [starts] at step
        exact ⟨after, step⟩
  · rw [point]
    dsimp only
    have starts : starting lowest buffer = [] := if_neg (by rw [point]; exact nofun)
    have same : buffer.startAt lowest = buffer := by
      unfold JitterBuffer.startAt
      rw [← point]
    by_cases growing : nowUs - lowest * kFrameUs < buffer.desiredOffsetUs
    · rw [buffer.advance_grow nowUs lowest growing]
      exact ⟨lowest, .grows point growing⟩
    · obtain ⟨after, step⟩ :=
        steady.advance_step nowUs (arrived positive (not_lt.mp growing)) (not_lt.mp growing)
      rw [starts, same] at step
      exact ⟨after, step⟩

namespace PopStep

variable {nowUs : Int} {after : Nat} {popped : PopResult × List Happening × JitterBuffer}

/-- The queue stays without gaps and no slot is found empty, unless the last frame of the queue was
dropped. -/
theorem steady (step : PopStep lowest heard nowUs buffer after popped)
    (before : Steady low high lowest heard buffer) :
    (Steady low high after heard popped.2.2 ∧ popped.1 ≠ .missing ∧
        popped.2.1.any Happening.isReset = false) ∨
      ((after = heard ∧ lowest + 1 = heard ∧
        nowUs - lowest * kFrameUs > buffer.desiredOffsetUs + kShrinkAboveUs) ∧
        popped.2.2.frames.values = []) := by
  have starts : (starting lowest buffer).any Happening.isReset = false := by
    unfold starting
    split <;> rfl
  cases step with
  | waits => exact Or.inl ⟨before, nofun, rfl⟩
  | grows => exact Or.inl ⟨{ before with }, nofun, rfl⟩
  | plays found inside =>
    refine Or.inl ⟨before.pass inside rfl rfl rfl rfl rfl, nofun, ?_⟩
    rw [any_append, starts]
    rfl
  | drops found behind inside =>
    have dropped : Steady low high (lowest + 1) heard ((buffer.startAt lowest).dropFrame lowest) :=
      before.pass (Nat.lt_of_succ_lt inside) rfl rfl rfl rfl rfl
    refine Or.inl ⟨dropped.pass inside rfl rfl rfl rfl rfl, nofun, ?_⟩
    rw [any_append, starts]
    rfl
  | ends found last above consumed empty => exact Or.inr ⟨⟨last, last, above⟩, empty⟩

/-- Frames are consumed in the order of their numbers. -/
theorem consumed (step : PopStep lowest heard nowUs buffer after popped) :
    lowest ≤ after ∧ (List.range lowest).map Int.ofNat ++
        popped.2.1.filterMap Happening.consumedNumber =
      (List.range after).map Int.ofNat := by
  have range : ∀ number, (List.range (number + 1)).map Int.ofNat =
      (List.range number).map Int.ofNat ++ [(number : Int)] := by
    intro number
    rw [range_succ, map_append]
    rfl
  cases step with
  | waits => exact ⟨Nat.le_refl _, append_nil _⟩
  | grows => exact ⟨Nat.le_refl _, append_nil _⟩
  | plays found =>
    refine ⟨Nat.le_succ _, ?_⟩
    rw [filterMap_append, starting_consumed, range]
    exact congrArg (_ ++ [·]) (OrderedMap.keyOf_of_find found)
  | drops found behind =>
    refine ⟨Nat.le_add_right _ _, ?_⟩
    rw [filterMap_append, starting_consumed, range, range, append_assoc]
    exact congrArg (_ ++ ·) (congrArg₂ (fun first second => [first, second])
      (OrderedMap.keyOf_of_find found) (OrderedMap.keyOf_of_find behind))
  | ends found last above consumed empty =>
    refine ⟨Nat.le_succ _, ?_⟩
    rw [consumed, range]

end PopStep

/-! ### Streams -/

/-- When pops come. -/
def popTime (phase : Int) (round : Nat) : Int := phase + round * kFrameUs

/-- The frames put before each pop: all that have arrived since the pop before, in the order of
their arrival. -/
structure Delivery (valid : Nat → Prop) (arrival : Nat → Int) (phase : Int) where
  puts : Nat → List Nat
  ordered : ∀ round, (puts round).Pairwise fun first second => arrival first ≤ arrival second
  once : ∀ round, (puts round).Nodup
  complete : ∀ round number, number ∈ puts round ↔
    valid number ∧ popTime phase round - kFrameUs < arrival number ∧
      arrival number ≤ popTime phase round

/-- A path whose transits lie in a band that the margin covers. -/
structure Path (valid : Nat → Prop) (arrival : Nat → Int) (low high : Int) : Prop where
  first : valid 0
  down : ∀ number earlier, valid number → earlier ≤ number → valid earlier
  band : ∀ number, valid number →
    low ≤ arrival number - number * kFrameUs ∧ arrival number - number * kFrameUs ≤ high
  narrow : high ≤ low + kMarginUs
  positive : 0 ≤ low

theorem eq_range' {values : List Nat} {base : Nat} (increasing : values.Pairwise (· < ·))
    (above : ∀ number ∈ values, base ≤ number)
    (closed : ∀ number ∈ values, ∀ earlier, base ≤ earlier → earlier ≤ number →
      earlier ∈ values) : values = List.range' base values.length := by
  induction values generalizing base with
  | nil => rfl
  | cons first rest hypothesis =>
    obtain ⟨least, increasingRest⟩ := pairwise_cons.mp increasing
    obtain rfl : first = base := by
      have low := above first mem_cons_self
      rcases mem_cons.mp (closed first mem_cons_self base (Nat.le_refl _) low) with
        same | later
      · exact same.symm
      · have := least base later
        omega
    rw [length_cons, List.range'_succ, ← hypothesis increasingRest]
    · exact fun number member => least number member
    · intro number member earlier low high
      have among := closed number (mem_cons_of_mem _ member) earlier (by omega) high
      rcases mem_cons.mp among with same | later
      · omega
      · exact later

section Streams

variable {valid : Nat → Prop} {arrival : Nat → Int} {phase : Int}

/-- How many frames have been put before a round. -/
structure Delivery.Heard (delivery : Delivery valid arrival phase) (round heard : Nat) : Prop where
  all : ∀ number < heard, valid number
  arrived : ∀ number, valid number →
    (number < heard ↔ arrival number ≤ popTime phase round - kFrameUs)

theorem Path.increasing (path : Path valid arrival low high) {first second : Nat}
    (late : valid second) (before : first < second) : arrival first < arrival second := by
  have early := path.band first (path.down second first late (Nat.le_of_lt before))
  have later := path.band second late
  have narrow := path.narrow
  unfold kFrameUs at early later
  unfold kMarginUs at narrow
  omega

variable {delivery : Delivery valid arrival phase} {round : Nat}

theorem Delivery.Heard.start (path : Path valid arrival low high) (phased : phase < kFrameUs) :
    delivery.Heard 0 0 := by
  refine ⟨fun _ before => absurd before (Nat.not_lt_zero _), fun number exists' => ?_⟩
  have band := path.band number exists'
  have positive := path.positive
  unfold popTime kFrameUs at *
  omega

/-- Frames are put in the order of their numbers. -/
theorem Delivery.Heard.next (path : Path valid arrival low high)
    (before : delivery.Heard round heard) :
    delivery.puts round = List.range' heard (delivery.puts round).length ∧
      delivery.Heard (round + 1) (heard + (delivery.puts round).length) := by
  have time : popTime phase (round + 1) - kFrameUs = popTime phase round := by
    unfold popTime kFrameUs
    push_cast
    omega
  have member : ∀ number, number ∈ delivery.puts round ↔
      valid number ∧ heard ≤ number ∧ arrival number ≤ popTime phase round := by
    intro number
    rw [delivery.complete]
    refine and_congr_right fun exists' => and_congr_left' ?_
    have known := before.arrived number exists'
    omega
  have range : delivery.puts round = List.range' heard (delivery.puts round).length := by
    refine eq_range' ?_ (fun number inside => ((member number).mp inside).2.1) ?_
    · refine ((delivery.ordered round).and (delivery.once round)).imp_of_mem ?_
      rintro first second inside - ⟨order, apart⟩
      rcases Nat.lt_or_ge first second with less | more
      · exact less
      · have later := path.increasing ((member first).mp inside).1
          (Nat.lt_of_le_of_ne more (Ne.symm apart))
        omega
    · intro number inside earlier above below
      obtain ⟨exists', -, arrived⟩ := (member number).mp inside
      refine (member earlier).mpr ⟨path.down number earlier exists' below, above, ?_⟩
      rcases Nat.eq_or_lt_of_le below with rfl | less
      · exact arrived
      · exact le_of_lt (lt_of_lt_of_le (path.increasing exists' less) arrived)
  refine ⟨range, ?_, ?_⟩
  · intro number inside
    rcases Nat.lt_or_ge number heard with old | new
    · exact before.all number old
    · have among : number ∈ delivery.puts round := by
        rw [range]
        exact mem_range'_1.mpr ⟨new, inside⟩
      exact ((member number).mp among).1
  · intro number exists'
    rw [time]
    have known := before.arrived number exists'
    have among : number ∈ delivery.puts round ↔
        heard ≤ number ∧ number < heard + (delivery.puts round).length := by
      rw [range]
      simp only [length_range']
      exact mem_range'_1
    have new := member number
    unfold kFrameUs at known
    constructor
    · intro inside
      rcases Nat.lt_or_ge number heard with old | above
      · have := known.mp old
        omega
      · exact (new.mp (among.mpr ⟨above, inside⟩)).2.2
    · intro arrived
      rcases Nat.lt_or_ge number heard with old | above
      · omega
      · exact (among.mp (new.mpr ⟨exists', above, arrived⟩)).2

/-! ### Rounds -/

/-- How far above the band playout can get. -/
def kReachUs : Int := kMarginUs + kMaxDelayUs + kFrameUs

/-- What puts leave alone. -/
structure Untouched (first second : JitterBuffer) : Prop where
  next : second.next = first.next
  popsSinceDrop : second.popsSinceDrop = first.popsSinceDrop
  expanded : second.expanded = first.expanded
  dropped : second.dropped = first.dropped
  initialDelayUs : second.initialDelayUs = first.initialDelayUs

theorem Untouched.trans {first second third : JitterBuffer} (early : Untouched first second)
    (late : Untouched second third) : Untouched first third :=
  ⟨late.next.trans early.next, late.popsSinceDrop.trans early.popsSinceDrop,
    late.expanded.trans early.expanded, late.dropped.trans early.dropped,
    late.initialDelayUs.trans early.initialDelayUs⟩

/-- A put that stores its frame and does nothing else. -/
structure BufferMoment.Stores (moment : BufferMoment) : Prop where
  returned : moment.returned = .put .stored
  happened : ∃ frame, moment.happened = [.stored frame]

variable (arrival) (payload : Nat → Bytes)

/-- The put of a frame. -/
def putOp (number : Nat) : BufferOp := .put number (payload number) (arrival number)

variable {arrival}

/-- The frames of a round are stored one behind the other. -/
theorem Steady.puts (path : Path valid arrival low high)
    (steady : Steady low high lowest heard buffer) {nowUs : Int} (count : Nat)
    (arrived : ∀ number, heard ≤ number → number < heard + count →
      valid number ∧ arrival number ≤ nowUs)
    (near : nowUs - lowest * kFrameUs < low + kReachUs) :
    let ops := (List.range' heard count).map (putOp arrival payload)
    Steady low high lowest (heard + count) (run JitterBuffer.step buffer ops) ∧
      Untouched buffer (run JitterBuffer.step buffer ops) ∧
      ∀ moment ∈ moments JitterBuffer.step buffer ops, BufferMoment.Stores moment := by
  induction count with
  | zero =>
    exact ⟨steady, ⟨rfl, rfl, rfl, rfl, rfl⟩, fun _ member => absurd member not_mem_nil⟩
  | succ count hypothesis =>
    obtain ⟨filled, untouched, stored⟩ := hypothesis fun number above before =>
      arrived number above (Nat.lt_succ_of_lt before)
    obtain ⟨exists', came⟩ := arrived (heard + count) (Nat.le_add_right _ _) (Nat.lt_succ_self _)
    have band := path.band _ exists'
    have split : (List.range' heard (count + 1)).map (putOp arrival payload) =
        (List.range' heard count).map (putOp arrival payload) ++
          [putOp arrival payload (heard + count)] := by
      rw [List.range'_concat, map_append, Nat.one_mul]
      rfl
    have put := filled.put_eq (payload (heard + count)) (arrival (heard + count)) (by
      intro _
      unfold kReachUs kMarginUs kMaxDelayUs kFrameUs at near
      unfold kFrameUs at band
      unfold kMaxAhead
      omega)
    dsimp only
    rw [split, run_append, run_cons, run_nil, moments_concat]
    have stepped : (run JitterBuffer.step buffer
        ((List.range' heard count).map (putOp arrival payload))).perform
          (putOp arrival payload (heard + count)) = (.put .stored, _, _) :=
      congrArg (fun result => (Returned.put result.1, result.2)) put
    have moved : (run JitterBuffer.step buffer
        ((List.range' heard count).map (putOp arrival payload))).step
          (putOp arrival payload (heard + count)) = _ :=
      congrArg (fun result => result.2.2) stepped
    refine ⟨?_, untouched.trans ?_, ?_⟩
    · rw [moved]
      exact filled.put (payload (heard + count)) band
    · rw [moved]
      exact ⟨rfl, rfl, rfl, rfl, rfl⟩
    · intro moment member
      rcases mem_append.mp member with early | last
      · exact stored moment early
      · rw [mem_singleton.mp last]
        refine ⟨congrArg Prod.fst stepped, _, congrArg (fun result => result.2.1) stepped⟩

/-- The calls of a round: what has arrived is put, then one frame is popped. -/
def roundOps (delivery : Delivery valid arrival phase) (round : Nat) : List BufferOp :=
  (delivery.puts round).map (putOp arrival payload) ++ [.pop (popTime phase round)]

/-- The calls of the first rounds. -/
def schedule (delivery : Delivery valid arrival phase) (rounds : Nat) : List BufferOp :=
  (List.range rounds).flatMap (roundOps payload delivery)

/-- The pop of a round, with the buffer it comes to. -/
def popMoment (delivery : Delivery valid arrival phase) (buffer : JitterBuffer) (round : Nat) :
    BufferMoment :=
  (run JitterBuffer.step buffer ((delivery.puts round).map (putOp arrival payload)),
    .pop (popTime phase round))

theorem schedule_succ (delivery : Delivery valid arrival phase) (rounds : Nat) :
    schedule payload delivery (rounds + 1) =
      schedule payload delivery rounds ++ roundOps payload delivery rounds := by
  unfold schedule
  rw [range_succ, flatMap_append, flatMap_singleton]

theorem moments_roundOps (delivery : Delivery valid arrival phase) (buffer : JitterBuffer)
    (round : Nat) :
    moments JitterBuffer.step buffer (roundOps payload delivery round) =
      moments JitterBuffer.step buffer ((delivery.puts round).map (putOp arrival payload)) ++
        [popMoment payload delivery buffer round] :=
  moments_concat ..

theorem run_roundOps (delivery : Delivery valid arrival phase) (buffer : JitterBuffer)
    (round : Nat) :
    run JitterBuffer.step buffer (roundOps payload delivery round) =
      (popMoment payload delivery buffer round).after :=
  run_append ..

/-- The buffer before a round, while a frame is still to be consumed. -/
structure Delivery.Waiting (delivery : Delivery valid arrival phase) (low high : Int)
    (round lowest heard : Nat) (buffer : JitterBuffer) : Prop where
  known : delivery.Heard round heard
  steady : Steady low high lowest heard buffer
  near : popTime phase round - lowest * kFrameUs < low + kReachUs

theorem Delivery.Waiting.create (path : Path valid arrival low high) (phased : phase < kFrameUs)
    (initialDelayUs : Int) : delivery.Waiting low high 0 0 0 (.create initialDelayUs) := by
  refine ⟨.start path phased, ?_, ?_⟩
  · exact ⟨⟨length_replicate, rfl, rfl, fun _ member => absurd member not_mem_nil⟩,
      fun _ _ before => absurd before (Nat.not_lt_zero _),
      fun _ member => absurd member not_mem_nil, Nat.le_refl _, Or.inl ⟨rfl, rfl⟩⟩
  · have positive := path.positive
    unfold popTime kReachUs kMarginUs kMaxDelayUs
    unfold kFrameUs at *
    omega

/-- What a round does. -/
structure Delivery.Round (delivery : Delivery valid arrival phase) (low high : Int)
    (round lowest heard : Nat) (buffer : JitterBuffer) (after : Nat) : Prop where
  stores : ∀ moment ∈ moments JitterBuffer.step buffer
    ((delivery.puts round).map (putOp arrival payload)), BufferMoment.Stores moment
  untouched : Untouched buffer (popMoment payload delivery buffer round).1
  steady : Steady low high lowest heard (popMoment payload delivery buffer round).1
  known : delivery.Heard (round + 1) heard
  pops : PopStep lowest heard (popTime phase round)
    (popMoment payload delivery buffer round).1 after
    ((popMoment payload delivery buffer round).1.pop (popTime phase round))
  -- While frames are to come, the queue does not run dry.
  waits : (delivery.Waiting low high (round + 1) after heard
        (popMoment payload delivery buffer round).after ∧
      (popMoment payload delivery buffer round).returned ≠ .pop .missing ∧
      (popMoment payload delivery buffer round).resets = false) ∨
    ¬valid after ∧ after = heard ∧
      (popMoment payload delivery buffer round).after.frames.values = []

theorem popTime_succ (phase : Int) (round : Nat) :
    popTime phase (round + 1) = popTime phase round + kFrameUs := by
  unfold popTime kFrameUs
  push_cast
  omega

theorem Delivery.Heard.due (path : Path valid arrival low high)
    (known : delivery.Heard (round + 1) heard) {number : Nat} (exists' : valid number)
    (due : low + kMarginUs ≤ popTime phase round - number * kFrameUs) : number < heard := by
  refine (known.arrived number exists').mpr ?_
  have band := path.band number exists'
  have narrow := path.narrow
  rw [popTime_succ]
  omega

/-- Playout stays near the stream. -/
theorem PopStep.near {delivery : Delivery valid arrival phase}
    {popped : PopResult × List Happening × JitterBuffer} {after : Nat}
    (step : PopStep lowest heard (popTime phase round) buffer after popped)
    (path : Path valid arrival low high) (windowed : Windowed low high heard buffer)
    (known : delivery.Heard (round + 1) heard) (idle : buffer.next = none → lowest = 0)
    (positive : buffer.next ≠ none → 0 < heard)
    (near : popTime phase round - lowest * kFrameUs < low + kReachUs) :
    popTime phase (round + 1) - after * kFrameUs < low + kReachUs := by
  have narrow := path.narrow
  rw [popTime_succ]
  cases step with
  | waits unset early =>
    unfold kReachUs kMarginUs kMaxDelayUs kFrameUs at *
    obtain rfl := idle unset
    rcases Nat.eq_zero_or_pos heard with unheard | heardSome
    · -- The first frame is still on its way.
      have missing := (known.arrived 0 path.first).not.mp (by omega)
      have band := path.band 0 path.first
      rw [popTime_succ] at missing
      unfold kFrameUs at missing
      omega
    · have bounds := (windowed.desired_bounds heardSome).2
      unfold kMaxDelayUs at bounds
      omega
  | grows point early =>
    have bounds := (windowed.desired_bounds (positive (by rw [point]; exact nofun))).2
    unfold kReachUs kMarginUs kMaxDelayUs kFrameUs at *
    omega
  | plays | drops | ends =>
    unfold kFrameUs at *
    push_cast
    omega

/-- A round of a stream without loss. -/
theorem Delivery.Waiting.next_round (path : Path valid arrival low high)
    (waiting : delivery.Waiting low high round lowest heard buffer) (more : valid lowest) :
    ∃ after, delivery.Round payload low high round lowest (heard + (delivery.puts round).length)
      buffer after := by
  obtain ⟨range, known⟩ := waiting.known.next path
  have arrived : ∀ number, heard ≤ number → number < heard + (delivery.puts round).length →
      valid number ∧ arrival number ≤ popTime phase round := by
    intro number _ before
    have exists' := known.all number before
    refine ⟨exists', ?_⟩
    have came := (known.arrived number exists').mp before
    rw [popTime_succ] at came
    omega
  obtain ⟨steady, untouched, stores⟩ :=
    waiting.steady.puts payload path (delivery.puts round).length arrived waiting.near
  rw [← range] at steady untouched stores
  change Steady low high lowest _ (popMoment payload delivery buffer round).1 at steady
  have bounds : 0 < heard + (delivery.puts round).length →
      low + kMarginUs ≤ (popMoment payload delivery buffer round).1.desiredOffsetUs :=
    fun positive => (steady.toWindowed.desired_bounds positive).1
  obtain ⟨after, step⟩ := steady.pop_step (popTime phase round)
    fun positive due => known.due path more ((bounds positive).trans due)
  have near := step.near path steady.toWindowed known
    (fun idle => (steady.point.resolve_right fun set => absurd (idle.symm.trans set.1) nofun).2)
    (fun set => (steady.point.resolve_left fun idle => set idle.1).2) waiting.near
  refine ⟨after, stores, untouched, steady, known, step, ?_⟩
  rcases step.steady steady with ⟨kept, found, unreset⟩ | ⟨⟨ended, last, above⟩, empty⟩
  · exact Or.inl ⟨⟨known, kept, near⟩, fun missing => found (Returned.pop.inj missing), unreset⟩
  · -- A frame behind the last one would have come by now.
    refine Or.inr ⟨fun exists' => ?_, ended, empty⟩
    have bound := bounds (by omega)
    have early := known.due path exists' (by
      rw [ended, ← last]
      unfold kShrinkAboveUs kFrameUs at above
      unfold kFrameUs
      push_cast
      omega)
    omega

end Streams

/-- The stream in which every frame takes the same time. -/
def constantDelivery (valid : Nat → Prop) [DecidablePred valid] (transitUs phase : Int) :
    Delivery valid (fun number => number * kFrameUs + transitUs) phase where
  puts round :=
    let number := ((popTime phase round - transitUs) / kFrameUs).toNat
    if transitUs ≤ popTime phase round ∧ valid number then [number] else []
  ordered round := by
    dsimp only
    split
    · exact List.pairwise_singleton _ _
    · exact List.Pairwise.nil
  once round := by
    dsimp only
    split
    · exact List.nodup_singleton _
    · exact List.nodup_nil
  complete round number := by
    dsimp only
    unfold kFrameUs
    split
    next arrived =>
      rw [List.mem_singleton]
      constructor
      · rintro rfl
        exact ⟨arrived.2, by omega⟩
      · rintro ⟨-, inside⟩
        omega
    next absent =>
      refine iff_of_false List.not_mem_nil ?_
      rintro ⟨exists', inside⟩
      obtain rfl : number = ((popTime phase round - transitUs) / 20000).toNat := by omega
      exact absent ⟨by omega, exists'⟩

/-! ### A stream with a last frame -/

/-- The numbers of the frames consumed, played or dropped. -/
def consumed (history : List BufferMoment) : List Int :=
  (happenings history).filterMap Happening.consumedNumber

theorem consumed_append (first second : List BufferMoment) :
    consumed (first ++ second) = consumed first ++ consumed second := by
  unfold consumed happenings
  rw [flatMap_append, filterMap_append]

theorem consumed_concat_pop (history : List BufferMoment) (buffer : JitterBuffer) (nowUs : Int) :
    consumed (history ++ [(buffer, .pop nowUs)]) =
      consumed history ++ (buffer.pop nowUs).2.1.filterMap Happening.consumedNumber := by
  unfold consumed
  rw [happenings_concat, filterMap_append]
  rfl

theorem consumed_stores {history : List BufferMoment}
    (stores : ∀ moment ∈ history, BufferMoment.Stores moment) : consumed history = [] := by
  refine filterMap_eq_nil_iff.mpr fun happening member => ?_
  obtain ⟨moment, inside, among⟩ := mem_flatMap.mp member
  obtain ⟨frame, happened⟩ := (stores moment inside).happened
  rw [happened] at among
  rw [mem_singleton.mp among]
  rfl

/-- No frame comes too late or twice, and until the last one is consumed none is missing and the
buffer does not reset. -/
structure Unharmed (last : Nat) (history : List BufferMoment) : Prop where
  puts : ∀ moment ∈ history, moment.returned ≠ .put .late ∧ moment.returned ≠ .put .duplicate
  pops : Each (fun past moment => (last : Int) ∉ consumed (past ++ [moment]) →
    moment.returned ≠ .pop .missing ∧ moment.resets = false) history

theorem Unharmed.stores {last : Nat} {history more : List BufferMoment}
    (unharmed : Unharmed last history) (stores : ∀ moment ∈ more, BufferMoment.Stores moment) :
    Unharmed last (history ++ more) := by
  refine ⟨fun moment member => ?_, unharmed.pops.append (Each.of_forall ?_)⟩
  · rcases mem_append.mp member with old | new
    · exact unharmed.puts moment old
    · rw [(stores moment new).returned]
      exact ⟨nofun, nofun⟩
  · intro moment member _ _
    obtain ⟨returned, frame, happened⟩ := stores moment member
    rw [returned]
    refine ⟨nofun, ?_⟩
    unfold BufferMoment.resets
    rw [happened]
    rfl

theorem Unharmed.pop {last : Nat} {history : List BufferMoment} {buffer : JitterBuffer}
    {nowUs : Int} (unharmed : Unharmed last history)
    (found : (last : Int) ∉ consumed (history ++ [(buffer, .pop nowUs)]) →
      BufferMoment.returned (buffer, .pop nowUs) ≠ .pop .missing ∧
        BufferMoment.resets (buffer, .pop nowUs) = false) :
    Unharmed last (history ++ [(buffer, .pop nowUs)]) := by
  refine ⟨fun moment member => ?_, unharmed.pops.concat found⟩
  rcases mem_append.mp member with old | new
  · exact unharmed.puts moment old
  · rw [mem_singleton.mp new]
    exact ⟨nofun, nofun⟩

theorem length_consumedNumber (happened : List Happening) :
    (happened.filterMap Happening.consumedNumber).length =
      (happened.filterMap Happening.playedFrame).length +
        (happened.filterMap Happening.droppedFrame).length := by
  induction happened with
  | nil => rfl
  | cons happening rest hypothesis =>
    cases happening with
    | played frame =>
      exact (congrArg (· + 1) hypothesis).trans (Nat.add_right_comm _ _ _)
    | dropped frame => exact congrArg (· + 1) hypothesis
    | stored | rewound | started | skipped | missed | reset => exact hypothesis

section LastFrame

variable {last : Nat} {arrival : Nat → Int} {phase : Int} (payload : Nat → Bytes)
  (delivery : Delivery (· ≤ last) arrival phase)

/-- How far the stream has been consumed before a round. -/
def Progress (low high : Int) (round : Nat) (history : List BufferMoment) (buffer : JitterBuffer) :
    Prop :=
  (∃ lowest heard, lowest ≤ last ∧ delivery.Waiting low high round lowest heard buffer ∧
    consumed history = (List.range lowest).map Int.ofNat) ∨
  ((∀ number ≤ last, arrival number ≤ popTime phase round - kFrameUs) ∧
    buffer.frames.values = [] ∧ consumed history = (List.range (last + 1)).map Int.ofNat)

variable {delivery} {round : Nat} {history : List BufferMoment}

theorem mem_range_ofNat {number count : Nat} :
    (number : Int) ∈ (List.range count).map Int.ofNat ↔ number < count := by
  rw [← Int.ofNat_eq_natCast, mem_map_of_injective fun _ _ => Int.ofNat.inj, mem_range]

/-- A round goes on consuming the stream. -/
theorem Progress.next_round (path : Path (· ≤ last) arrival low high)
    (progress : Progress delivery low high round history buffer)
    (unharmed : Unharmed last history) :
    Progress delivery low high (round + 1)
        (history ++ moments JitterBuffer.step buffer (roundOps payload delivery round))
        (run JitterBuffer.step buffer (roundOps payload delivery round)) ∧
      Unharmed last
        (history ++ moments JitterBuffer.step buffer (roundOps payload delivery round)) := by
  rw [run_roundOps, moments_roundOps, ← append_assoc]
  rcases progress with ⟨lowest, heard, more, waiting, done⟩ | ⟨arrived, empty, done⟩
  · obtain ⟨after, took⟩ := waiting.next_round payload path more
    have passed : consumed (history ++ moments JitterBuffer.step buffer
        ((delivery.puts round).map (putOp arrival payload)) ++
          [popMoment payload delivery buffer round]) = (List.range after).map Int.ofNat := by
      unfold popMoment
      rw [consumed_concat_pop, consumed_append, consumed_stores took.stores, append_nil, done]
      exact took.pops.consumed.2
    have all : ∀ number ≤ last, ¬after ≤ last → after ≤ heard + (delivery.puts round).length →
        arrival number ≤ popTime phase (round + 1) - kFrameUs := fun number inside _ _ =>
      (took.known.arrived number inside).mp (by omega)
    have bounded : heard + (delivery.puts round).length ≤ last + 1 :=
      Nat.le_of_not_lt fun beyond => Nat.not_succ_le_self _ (took.known.all (last + 1) beyond)
    have stored := unharmed.stores took.stores
    rcases took.waits with ⟨waits, smooth⟩ | ⟨invalid, ended, dry⟩
    · refine ⟨?_, stored.pop fun _ => smooth⟩
      have reached := waits.steady.reached
      by_cases more : after ≤ last
      · exact Or.inl ⟨after, _, more, waits, passed⟩
      · obtain rfl : after = last + 1 := by omega
        refine Or.inr ⟨fun number inside => all number inside more reached, ?_, passed⟩
        refine eq_nil_iff_forall_not_mem.mpr fun frame member => ?_
        obtain ⟨number, above, before, -⟩ := waits.steady.only frame member
        omega
    · obtain rfl : after = last + 1 := by omega
      refine ⟨Or.inr ⟨fun number inside => all number inside invalid (Nat.le_of_eq ended), dry,
        passed⟩, stored.pop fun absent => absurd ?_ absent⟩
      exact passed ▸ mem_range_ofNat.mpr (Nat.lt_succ_self _)
  · have silent : delivery.puts round = [] := by
      refine eq_nil_iff_forall_not_mem.mpr fun number member => ?_
      obtain ⟨exists', late, -⟩ := (delivery.complete round number).mp member
      have early := arrived number exists'
      omega
    unfold popMoment
    rw [silent, map_nil, moments_nil, append_nil, run_nil]
    have quiet := buffer.pop_empty (popTime phase round) empty
    have passed : consumed (history ++ [(buffer, .pop (popTime phase round))]) =
        (List.range (last + 1)).map Int.ofNat := by
      rw [consumed_concat_pop, done, quiet.2, append_nil]
    refine ⟨Or.inr ⟨fun number inside => ?_, quiet.1, passed⟩, unharmed.pop fun absent => ?_⟩
    · have early := arrived number inside
      rw [popTime_succ]
      unfold kFrameUs at *
      omega
    · exact absurd (passed ▸ mem_range_ofNat.mpr (Nat.lt_succ_self _)) absent

theorem progress_schedule (path : Path (· ≤ last) arrival low high) (phased : phase < kFrameUs)
    (initialDelayUs : Int) (rounds : Nat) :
    let history := moments JitterBuffer.step (.create initialDelayUs)
      (schedule payload delivery rounds)
    Progress delivery low high rounds history
        (run JitterBuffer.step (.create initialDelayUs) (schedule payload delivery rounds)) ∧
      Unharmed last history := by
  induction rounds with
  | zero =>
    refine ⟨Or.inl ⟨0, 0, Nat.zero_le _, .create path phased initialDelayUs, rfl⟩, ?_, ?_⟩
    · exact fun _ member => absurd member not_mem_nil
    · exact Each.of_forall fun _ member => absurd member not_mem_nil
  | succ rounds hypothesis =>
    obtain ⟨progress, unharmed⟩ := hypothesis
    dsimp only
    rw [schedule_succ, moments_append, run_append]
    exact progress.next_round payload path unharmed

theorem Progress.count
    (progress : Progress delivery low high round history buffer) :
    ∃ count ≤ last + 1, consumed history = (List.range count).map Int.ofNat ∧
      (low + kReachUs + last * kFrameUs ≤ popTime phase round → count = last + 1) := by
  rcases progress with ⟨lowest, heard, more, waiting, done⟩ | ⟨-, -, done⟩
  · refine ⟨lowest, Nat.le_succ_of_le more, done, fun late => ?_⟩
    have near := waiting.near
    unfold kFrameUs at near late
    omega
  · exact ⟨last + 1, Nat.le_refl _, done, fun _ => rfl⟩

/-- Jitter within the margin costs nothing. Frames 0 to `last` arrive with transits in a band of
10 ms and everything that has arrived is put before each pop. Then no frame is too late or put
twice, none is found missing and the buffer does not reset until the last one is consumed, and all
are consumed in order: played, or counted as dropped. -/
theorem jitter_in_margin_costs_nothing (initialDelayUs : Int) {a : Int} (positive : 0 ≤ a)
    (phased : 0 ≤ phase ∧ phase < kFrameUs)
    (band : ∀ number ≤ last, a ≤ arrival number - number * kFrameUs ∧
      arrival number - number * kFrameUs ≤ a + 10000) :
    let history (rounds : Nat) := moments JitterBuffer.step (.create initialDelayUs)
      (schedule payload delivery rounds)
    let buffer (rounds : Nat) := run JitterBuffer.step (.create initialDelayUs)
      (schedule payload delivery rounds)
    (∀ rounds, Unharmed last (history rounds) ∧
      ∃ count ≤ last + 1, consumed (history rounds) = (List.range count).map Int.ofNat ∧
        (history rounds).countP BufferMoment.isPlayed + (buffer rounds).dropped = count) ∧
    ∃ enough, ∀ rounds ≥ enough,
      consumed (history rounds) = (List.range (last + 1)).map Int.ofNat := by
  intro history buffer
  have path : Path (· ≤ last) arrival a (a + 10000) :=
    ⟨Nat.zero_le _, fun _ _ inside before => before.trans inside, band, Int.le_refl _, positive⟩
  have progress : ∀ rounds,
      Progress delivery a (a + 10000) rounds (history rounds) (buffer rounds) ∧
        Unharmed last (history rounds) :=
    progress_schedule payload path phased.2 initialDelayUs
  refine ⟨fun rounds => ⟨(progress rounds).2, ?_⟩, ?_⟩
  · obtain ⟨count, bounded, done, -⟩ := (progress rounds).1.count
    refine ⟨count, bounded, done, ?_⟩
    have balanced := balanced_run initialDelayUs (schedule payload delivery rounds)
    have lengths := length_consumedNumber (happenings (history rounds))
    rw [← length_happenings BufferMoment.length_playedFrame]
    have counted := congrArg List.length done
    rw [length_map, length_range] at counted
    exact ((congrArg (_ + ·) balanced.dropped).trans lengths.symm).trans counted
  · refine ⟨(a + kReachUs + last * kFrameUs).toNat, fun rounds late => ?_⟩
    obtain ⟨count, -, done, all⟩ := (progress rounds).1.count
    rw [show consumed (history rounds) = _ from done, all]
    unfold popTime
    unfold kFrameUs at *
    omega

end LastFrame

theorem threeFrames_consumed :
    let delivery : Delivery (· ≤ 2) _ 5000 := constantDelivery (· ≤ 2) 3000 5000
    ∃ enough, ∀ rounds ≥ enough,
      consumed (moments JitterBuffer.step (.create 60000)
        (schedule (fun _ => [7]) delivery rounds)) = [0, 1, 2] :=
  (jitter_in_margin_costs_nothing (fun _ => [7]) 60000 (Int.le_refl 0) (by decide)
    (by unfold kFrameUs; omega)).2

end KetPhone.Media
