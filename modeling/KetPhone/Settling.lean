/-
This file shows that the jitter buffer gives its latency back on a clean path, where
every frame takes the same time. The fastest transit and the percentile are then
that time, so the target is the initial delay above it during the warm-up and the
margin above it afterwards; it only ever falls, and playout that has started is
never below it and repeats no frame.

Above the shrinking threshold a frame is dropped once ten pops have passed since the
last drop. Counting ten for each frame that playout is too late by, and the pops that
are missing until the next drop, every pop after the warm-up lowers the sum by one.
It starts below 160, and the warm-up lasts fifty pops at most.
-/

import KetPhone.Delivery
import Mathlib.Data.List.GetD

namespace KetPhone.Media

open List

variable {transitUs phase : Int} {heard lowest round : Nat} {buffer : JitterBuffer}
variable {popped : PopResult × List Happening × JitterBuffer} {first after : Nat}

/-! ### The target -/

/-- The delay that the buffer aims for after a number of puts. -/
def constantDelay (initialDelayUs : Int) (heard : Nat) : Int :=
  if heard < kWarmup then initialDelayUs else kMarginUs

theorem Windowed.percentile_constant (windowed : Windowed transitUs transitUs heard buffer)
    (positive : 0 < heard) : buffer.percentile = transitUs := by
  have length := windowed.length
  have count := windowed.count
  unfold kWindow at length count
  have inside : ((buffer.windowCount - 1) * 99 + 99) / 100 <
      (buffer.samples.insertionSort (· ≤ ·)).length := by
    rw [length_insertionSort]
    unfold JitterBuffer.samples
    rw [length_take]
    omega
  unfold JitterBuffer.percentile
  rw [getD_eq_getElem _ _ inside]
  have band := windowed.band _ ((mem_insertionSort _).mp (getElem_mem inside))
  omega

theorem Windowed.desired_constant (windowed : Windowed transitUs transitUs heard buffer)
    (positive : 0 < heard)
    (clamped : kMarginUs ≤ buffer.initialDelayUs ∧ buffer.initialDelayUs ≤ kMaxDelayUs) :
    buffer.desiredOffsetUs = transitUs + constantDelay buffer.initialDelayUs heard := by
  have fastest : buffer.fastest = transitUs := by
    have bounds := windowed.fastest_bounds positive
    omega
  have count := windowed.count
  unfold JitterBuffer.desiredOffsetUs constantDelay clampDelay
  dsimp only
  rw [windowed.percentile_constant positive, fastest, count]
  unfold kWindow kWarmup kMarginUs kMaxDelayUs at *
  split <;> split <;> omega

theorem constantDelay_le {initialDelayUs : Int} (clamped : kMarginUs ≤ initialDelayUs)
    {early late : Nat} (order : early ≤ late) :
    kMarginUs ≤ constantDelay initialDelayUs late ∧
      constantDelay initialDelayUs late ≤ constantDelay initialDelayUs early := by
  unfold constantDelay
  split <;> split <;> omega

/-! ### One pop -/

/-- A pop that plays a frame, at once or after it dropped one. -/
structure Popped (lowest heard : Nat) (offset : Int) (buffer : JitterBuffer) (after : Nat)
    (popped : PopResult × List Happening × JitterBuffer) : Prop where
  result : ∃ payload, popped.1 = .played payload
  last : popped.2.2.lastPlayed = some ((after : Int) - 1)
  point : popped.2.2.next = some (after : Int)
  delay : popped.2.2.initialDelayUs = buffer.initialDelayUs
  expanded : popped.2.2.expanded = buffer.expanded
  inside : lowest < heard
  due : buffer.desiredOffsetUs ≤ offset
  moved :
    (after = lowest + 1 ∧ popped.2.2.dropped = buffer.dropped ∧
      popped.2.2.popsSinceDrop = buffer.popsSinceDrop + 1 ∧
      (offset ≤ buffer.desiredOffsetUs + kShrinkAboveUs ∨
        buffer.popsSinceDrop < kPopsBetweenDrops)) ∨
    (after = lowest + 2 ∧ popped.2.2.popsSinceDrop = 1 ∧
      offset > buffer.desiredOffsetUs + kShrinkAboveUs ∧
      buffer.popsSinceDrop ≥ kPopsBetweenDrops)

theorem PopStep.outcome {nowUs : Int} (step : PopStep lowest heard nowUs buffer after popped)
    (more : nowUs - lowest * kFrameUs > buffer.desiredOffsetUs + kShrinkAboveUs →
      lowest + 1 ≠ heard) :
    (buffer.next = none ∧ after = lowest ∧ popped = (.buffering, [], buffer)) ∨
      (buffer.next ≠ none ∧ nowUs - lowest * kFrameUs < buffer.desiredOffsetUs) ∨
      Popped lowest heard (nowUs - lowest * kFrameUs) buffer after popped := by
  cases step with
  | waits idle early => exact Or.inl ⟨idle, rfl, rfl⟩
  | grows point early => exact Or.inr (Or.inl ⟨by rw [point]; exact nofun, early⟩)
  | plays found inside due still =>
    refine Or.inr (Or.inr ⟨⟨_, rfl⟩, ?_, rfl, rfl, rfl, inside, due, Or.inl ⟨rfl, rfl, rfl, still⟩⟩)
    exact congrArg some (by push_cast; omega)
  | drops found behind inside above waited =>
    refine Or.inr (Or.inr ⟨⟨_, rfl⟩, ?_, ?_, rfl, rfl, Nat.lt_of_succ_lt inside, ?_,
      Or.inr ⟨rfl, rfl, above, waited⟩⟩)
    · exact congrArg some (by push_cast; omega)
    · exact congrArg some (by push_cast; omega)
    · unfold kShrinkAboveUs kFrameUs at *
      omega
  | ends found last above => exact absurd last (more above)

theorem Popped.above
    (played : Popped lowest heard (popTime phase round - lowest * kFrameUs) buffer after popped) :
    buffer.desiredOffsetUs ≤ popTime phase (round + 1) - after * kFrameUs := by
  have due := played.due
  rw [popTime_succ]
  rcases played.moved with ⟨rfl, -⟩ | ⟨rfl, -, above, -⟩
  · unfold kFrameUs at *
    push_cast
    omega
  · unfold kShrinkAboveUs kFrameUs at *
    push_cast
    omega

def PopResult.isPlayed : PopResult → Bool
  | .played _ => true
  | _ => false

theorem BufferMoment.isPlayed_pop (buffer : JitterBuffer) (nowUs : Int) :
    BufferMoment.isPlayed (buffer, .pop nowUs) = (buffer.pop nowUs).1.isPlayed := by
  unfold isPlayed returned JitterBuffer.perform PopResult.isPlayed
  dsimp only
  cases (buffer.pop nowUs).1 <;> rfl

theorem BufferMoment.playedFrame_pop {buffer : JitterBuffer} {nowUs sequence : Int}
    {payload : Bytes} (result : (buffer.pop nowUs).1 = .played payload)
    (last : (buffer.pop nowUs).2.2.lastPlayed = some sequence) :
    BufferMoment.playedFrame (buffer, .pop nowUs) = some { sequence, payload } := by
  unfold playedFrame returned after JitterBuffer.step JitterBuffer.perform
  dsimp only
  rw [result, last]

/-! ### Rounds -/

/-- Ten for each frame that playout is too late by, and the pops until the next drop. -/
def potential (excess : Int) (pops : Nat) : Int :=
  10 * ((excess - 20001) / 20000) + (10 - min pops 10)

/-- Every pop after the warm-up brings playout closer to the target, until it is close enough. -/
theorem Popped.drains {initialDelayUs : Int}
    (played : Popped lowest heard (popTime phase round - lowest * kFrameUs) buffer after popped)
    (desired : buffer.desiredOffsetUs = transitUs + constantDelay initialDelayUs heard)
    (passed : round ≤ first + lowest)
    (drains : popTime phase round - lowest * kFrameUs ≤ transitUs + 40000 ∨
      potential (popTime phase round - lowest * kFrameUs - transitUs) buffer.popsSinceDrop +
        max 0 ((round : Int) - first - 51) ≤ 160) :
    popTime phase (round + 1) - after * kFrameUs ≤ transitUs + 40000 ∨
      potential (popTime phase (round + 1) - after * kFrameUs - transitUs)
          popped.2.2.popsSinceDrop +
        max 0 (((round + 1 : Nat) : Int) - first - 51) ≤ 160 := by
  have inside := played.inside
  rw [popTime_succ]
  unfold potential kFrameUs at *
  rcases played.moved with ⟨rfl, -, pops, still⟩ | ⟨rfl, pops, -, waited⟩
  · rw [pops]
    rw [desired] at still
    unfold constantDelay kWarmup kMarginUs kShrinkAboveUs kPopsBetweenDrops kFrameUs at still
    push_cast
    split at still <;> omega
  · rw [pops]
    unfold kPopsBetweenDrops at waited
    push_cast
    omega

section CleanPath

variable (payload : Nat → Bytes) {arrival : Nat → Int}
  {delivery : Delivery (fun _ => True) arrival phase}

/-- Playout has not started. -/
structure Delivery.Idle (delivery : Delivery (fun _ => True) arrival phase) (transitUs : Int)
    (round heard : Nat) (buffer : JitterBuffer) : Prop
    extends delivery.Waiting transitUs transitUs round 0 heard buffer where
  idle : buffer.next = none
  clamped : kMarginUs ≤ buffer.initialDelayUs ∧ buffer.initialDelayUs ≤ kMaxDelayUs

/-- Playout has started in an earlier round and drops what it is too late by. -/
structure Delivery.Draining (delivery : Delivery (fun _ => True) arrival phase) (transitUs : Int)
    (first round lowest heard : Nat) (buffer : JitterBuffer) : Prop
    extends delivery.Waiting transitUs transitUs round lowest heard buffer where
  point : buffer.next = some (lowest : Int)
  clamped : kMarginUs ≤ buffer.initialDelayUs ∧ buffer.initialDelayUs ≤ kMaxDelayUs
  above : transitUs + constantDelay buffer.initialDelayUs heard ≤
    popTime phase round - lowest * kFrameUs
  passed : round ≤ first + lowest
  drains : popTime phase round - lowest * kFrameUs ≤ transitUs + 40000 ∨
    potential (popTime phase round - lowest * kFrameUs - transitUs) buffer.popsSinceDrop +
      max 0 ((round : Int) - first - 51) ≤ 160

theorem Delivery.Draining.settled
    (draining : delivery.Draining transitUs first round lowest heard buffer)
    (late : round ≥ first + 250) : popTime phase round - lowest * kFrameUs ≤ transitUs + 40000 := by
  refine draining.drains.elim id fun left => ?_
  unfold potential at left
  omega

variable {payload} {after : Nat}

theorem Delivery.Round.waiting
    (took : delivery.Round payload transitUs transitUs round lowest heard buffer after) :
    delivery.Waiting transitUs transitUs (round + 1) after heard
      (popMoment payload delivery buffer round).after :=
  (took.waits.resolve_right fun ended => ended.1 trivial).1

theorem Delivery.Round.outcome (path : Path (fun _ => True) arrival transitUs transitUs)
    (took : delivery.Round payload transitUs transitUs round lowest heard buffer after) :
    let moment := popMoment payload delivery buffer round
    (moment.1.next = none ∧ after = lowest ∧
        moment.1.pop (popTime phase round) = (.buffering, [], moment.1)) ∨
      (moment.1.next ≠ none ∧
        popTime phase round - lowest * kFrameUs < moment.1.desiredOffsetUs) ∨
      Popped lowest heard (popTime phase round - lowest * kFrameUs) moment.1 after
        (moment.1.pop (popTime phase round)) := by
  refine took.pops.outcome fun above last => ?_
  have bounds := (took.steady.toWindowed.desired_bounds (by omega)).1
  have early : lowest + 1 < heard := took.known.due path trivial (by
    unfold kShrinkAboveUs kFrameUs at *
    push_cast
    omega)
  omega

theorem Delivery.Waiting.potential_le
    (waiting : delivery.Waiting transitUs transitUs round lowest heard buffer) (pops : Nat) :
    potential (popTime phase round - lowest * kFrameUs - transitUs) pops ≤ 160 := by
  have near := waiting.near
  unfold kReachUs kMarginUs kMaxDelayUs kFrameUs at near
  unfold potential kFrameUs
  omega

/-- Playout goes on after a frame was played. -/
theorem Delivery.Round.draining
    (took : delivery.Round payload transitUs transitUs round lowest heard buffer after)
    (played : Popped lowest heard (popTime phase round - lowest * kFrameUs)
      (popMoment payload delivery buffer round).1 after
      ((popMoment payload delivery buffer round).1.pop (popTime phase round)))
    (clamped : kMarginUs ≤ buffer.initialDelayUs ∧ buffer.initialDelayUs ≤ kMaxDelayUs)
    (passed : round ≤ first + lowest)
    (drains : popTime phase (round + 1) - after * kFrameUs ≤ transitUs + 40000 ∨
      potential (popTime phase (round + 1) - after * kFrameUs - transitUs)
          (popMoment payload delivery buffer round).after.popsSinceDrop +
        max 0 (((round + 1 : Nat) : Int) - first - 51) ≤ 160) :
    delivery.Draining transitUs first (round + 1) after heard
      (popMoment payload delivery buffer round).after := by
  have delay : (popMoment payload delivery buffer round).after.initialDelayUs =
      buffer.initialDelayUs := played.delay.trans took.untouched.initialDelayUs
  refine ⟨took.waiting, played.point, ?_, ?_, ?_, drains⟩
  · rw [delay]
    exact clamped
  · have above := played.above
    rw [took.steady.toWindowed.desired_constant (Nat.zero_lt_of_lt played.inside)
      (took.untouched.initialDelayUs.symm ▸ clamped), took.untouched.initialDelayUs] at above
    rw [delay]
    exact above
  · rcases played.moved with ⟨rfl, -⟩ | ⟨rfl, -⟩ <;> omega

variable (payload)

/-- A round before playout starts, or the one that starts it. -/
theorem Delivery.Idle.next_round (path : Path (fun _ => True) arrival transitUs transitUs)
    (idle : delivery.Idle transitUs round heard buffer) :
    let moment := popMoment payload delivery buffer round
    ∃ heard', (moment.isPlayed = false ∧
        delivery.Idle transitUs (round + 1) heard' moment.after) ∨
      (moment.isPlayed = true ∧
        ∃ lowest, delivery.Draining transitUs round (round + 1) lowest heard' moment.after) := by
  intro moment
  obtain ⟨after, took⟩ := idle.toWaiting.next_round payload path trivial
  have unset : moment.1.next = none := took.untouched.next.trans idle.idle
  refine ⟨heard + (delivery.puts round).length, ?_⟩
  rcases took.outcome path with ⟨-, rfl, waited⟩ | ⟨set, -⟩ | played
  · have still : moment.after = moment.1 := congrArg (fun result => result.2.2) waited
    have result : moment.isPlayed = false :=
      (BufferMoment.isPlayed_pop ..).trans (congrArg (fun result => result.1.isPlayed) waited)
    refine Or.inl ⟨result, took.waiting, still ▸ unset, ?_⟩
    rw [still, took.untouched.initialDelayUs]
    exact idle.clamped
  · exact absurd unset set
  · obtain ⟨frame, returned⟩ := played.result
    have result : moment.isPlayed = true :=
      (BufferMoment.isPlayed_pop ..).trans (congrArg PopResult.isPlayed returned)
    refine Or.inr ⟨result, after, took.draining played idle.clamped (Nat.le_add_right _ _)
      (Or.inr ?_)⟩
    have bound := took.waiting.potential_le
      (popMoment payload delivery buffer round).after.popsSinceDrop
    push_cast
    omega

/-- Every round after playout has started plays a frame. -/
theorem Delivery.Draining.next_round (path : Path (fun _ => True) arrival transitUs transitUs)
    (draining : delivery.Draining transitUs first round lowest heard buffer) :
    let moment := popMoment payload delivery buffer round
    ∃ after heard', delivery.Draining transitUs first (round + 1) after heard' moment.after ∧
      Untouched buffer moment.1 ∧
      moment.1.desiredOffsetUs = transitUs + constantDelay buffer.initialDelayUs heard' ∧
      Popped lowest heard' (popTime phase round - lowest * kFrameUs) moment.1 after
        (moment.1.pop (popTime phase round)) := by
  intro moment
  obtain ⟨after, took⟩ := draining.toWaiting.next_round payload path trivial
  have point : moment.1.next = some (lowest : Int) := took.untouched.next.trans draining.point
  have positive : 0 < heard + (delivery.puts round).length :=
    (took.steady.point.resolve_left fun idle => nomatch point.symm.trans idle.1).2
  have desired : moment.1.desiredOffsetUs =
      transitUs + constantDelay buffer.initialDelayUs (heard + (delivery.puts round).length) := by
    rw [took.steady.toWindowed.desired_constant positive
      (took.untouched.initialDelayUs.symm ▸ draining.clamped), took.untouched.initialDelayUs]
  have falls :=
    constantDelay_le draining.clamped.1 (Nat.le_add_right heard (delivery.puts round).length)
  have above := draining.above
  rcases took.outcome path with ⟨idle, -⟩ | ⟨-, early⟩ | played
  · exact nomatch point.symm.trans idle
  · change _ < moment.1.desiredOffsetUs at early
    omega
  · refine ⟨after, _, took.draining played draining.clamped draining.passed ?_, took.untouched,
      desired, played⟩
    exact played.drains desired draining.passed
      (took.untouched.popsSinceDrop.symm ▸ draining.drains)

variable (delivery) (initialDelayUs : Int)

/-- The buffer before a round. -/
def bufferAt (round : Nat) : JitterBuffer :=
  run JitterBuffer.step (.create initialDelayUs) (schedule payload delivery round)

/-- The pop of a round. -/
def popAt (round : Nat) : BufferMoment :=
  popMoment payload delivery (bufferAt payload delivery initialDelayUs round) round

/-- The round that starts playout. -/
structure Starts (first : Nat) : Prop where
  plays : (popAt payload delivery initialDelayUs first).isPlayed = true
  least : ∀ round < first, (popAt payload delivery initialDelayUs round).isPlayed = false

variable {payload delivery initialDelayUs}

theorem bufferAt_succ (round : Nat) :
    bufferAt payload delivery initialDelayUs (round + 1) =
      (popAt payload delivery initialDelayUs round).after := by
  unfold bufferAt
  rw [schedule_succ, run_append, run_roundOps]
  rfl

theorem Starts.unique {second : Nat} (early : Starts payload delivery initialDelayUs first)
    (late : Starts payload delivery initialDelayUs second) : first = second := by
  rcases Nat.lt_trichotomy first second with before | same | after
  · exact absurd (early.plays.symm.trans (late.least first before)) nofun
  · exact same
  · exact absurd (late.plays.symm.trans (early.least second after)) nofun

variable (payload delivery initialDelayUs)

/-- Before every round playout has not started, or it drains what it is too late by. -/
theorem idle_or_draining (path : Path (fun _ => True) arrival transitUs transitUs)
    (phased : phase < kFrameUs) (rounds : Nat) :
    ((∀ round < rounds, (popAt payload delivery initialDelayUs round).isPlayed = false) ∧
      ∃ heard, delivery.Idle transitUs rounds heard
        (bufferAt payload delivery initialDelayUs rounds)) ∨
    ∃ first < rounds, Starts payload delivery initialDelayUs first ∧
      ∃ lowest heard, delivery.Draining transitUs first rounds lowest heard
        (bufferAt payload delivery initialDelayUs rounds) := by
  induction rounds with
  | zero =>
    refine Or.inl ⟨fun _ before => absurd before (Nat.not_lt_zero _), 0,
      .create path phased initialDelayUs, rfl, clampDelay_bounds initialDelayUs⟩
  | succ rounds hypothesis =>
    rw [bufferAt_succ]
    rcases hypothesis with ⟨silent, heard, idle⟩ | ⟨first, before, starts, lowest, heard,
      draining⟩
    · obtain ⟨heard', ⟨unplayed, idle⟩ | ⟨played, lowest, draining⟩⟩ := idle.next_round payload path
      · refine Or.inl ⟨fun round before => ?_, heard', idle⟩
        rcases Nat.lt_succ_iff_lt_or_eq.mp before with early | rfl
        · exact silent round early
        · exact unplayed
      · exact Or.inr ⟨rounds, Nat.lt_succ_self _, ⟨played, silent⟩, lowest, heard', draining⟩
    · obtain ⟨after, heard', draining, -⟩ := draining.next_round payload path
      exact Or.inr ⟨first, Nat.lt_succ_of_lt before, starts, after, heard', draining⟩

theorem exists_starts (path : Path (fun _ => True) arrival transitUs transitUs)
    (phased : 0 ≤ phase ∧ phase < kFrameUs) :
    ∃ first, Starts payload delivery initialDelayUs first := by
  rcases idle_or_draining payload delivery initialDelayUs path phased.2
    (transitUs + kReachUs).toNat with ⟨-, heard, idle⟩ | ⟨first, -, starts, -⟩
  · have near := idle.near
    unfold popTime at near
    unfold kFrameUs at *
    omega
  · exact ⟨first, starts⟩

/-- On a clean path the buffer gives its latency back. Every frame takes the same time and
everything that has arrived is put before each pop. Then from the 250th pop after the first that
plays a frame on, every pop plays one, between 10 and 40 ms after it arrived, and no further frame
is dropped or repeated. -/
theorem clean_path_settles (positive : 0 ≤ transitUs) (phased : 0 ≤ phase ∧ phase < kFrameUs)
    (arrives : ∀ number : Nat, arrival number = number * kFrameUs + transitUs) :
    ∃ first, Starts payload delivery initialDelayUs first ∧ ∀ round ≥ first + 250,
      (∃ frame, (popAt payload delivery initialDelayUs round).playedFrame = some frame ∧
        transitUs + 10000 ≤ popTime phase round - frame.sequence * kFrameUs ∧
        popTime phase round - frame.sequence * kFrameUs ≤ transitUs + 40000) ∧
      (bufferAt payload delivery initialDelayUs (round + 1)).dropped =
        (bufferAt payload delivery initialDelayUs round).dropped ∧
      (bufferAt payload delivery initialDelayUs (round + 1)).expanded =
        (bufferAt payload delivery initialDelayUs round).expanded := by
  have path : Path (fun _ => True) arrival transitUs transitUs :=
    ⟨trivial, fun _ _ _ _ => trivial, fun number _ => by rw [arrives]; omega,
      Int.le_add_of_nonneg_right (by decide), positive⟩
  obtain ⟨first, starts⟩ := exists_starts payload delivery initialDelayUs path phased
  refine ⟨first, starts, fun round late => ?_⟩
  rcases idle_or_draining payload delivery initialDelayUs path phased.2 round with
    ⟨silent, -⟩ | ⟨other, -, same, lowest, heard, draining⟩
  · exact absurd (starts.plays.symm.trans (silent first (by omega))) nofun
  obtain rfl := same.unique starts
  have settled := draining.settled late
  obtain ⟨after, heard', -, untouched, desired, played⟩ := draining.next_round payload path
  have warm : constantDelay (bufferAt payload delivery initialDelayUs round).initialDelayUs heard' =
      kMarginUs := by
    have passed := draining.passed
    have inside := played.inside
    refine if_neg ?_
    unfold kWarmup
    omega
  rw [warm] at desired
  have due := played.due
  unfold kMarginUs at desired
  rcases played.moved with ⟨rfl, dropped, -⟩ | ⟨-, -, above, -⟩
  · obtain ⟨content, result⟩ := played.result
    rw [bufferAt_succ]
    refine ⟨⟨⟨lowest, content⟩, ?_, by dsimp only; omega, by dsimp only; omega⟩,
      dropped.trans untouched.dropped, played.expanded.trans untouched.expanded⟩
    refine BufferMoment.playedFrame_pop result (played.last.trans (congrArg some ?_))
    push_cast
    omega
  · unfold kShrinkAboveUs kFrameUs at *
    omega

end CleanPath

theorem lateStart_settles :
    let delivery : Delivery (fun _ => True) _ 7000 := constantDelivery (fun _ => True) 50000 7000
    ∃ first, Starts (fun _ => [7]) delivery 200000 first ∧ ∀ round ≥ first + 250,
      ∃ frame, (popAt (fun _ => [7]) delivery 200000 round).playedFrame = some frame ∧
        popTime 7000 round - frame.sequence * kFrameUs ≤ 90000 := by
  intro delivery
  obtain ⟨first, starts, settled⟩ := clean_path_settles (fun _ => [7]) delivery 200000
    (show (0 : Int) ≤ 50000 by decide) (by decide) (fun _ => rfl)
  refine ⟨first, starts, fun round late => ?_⟩
  obtain ⟨⟨frame, played, -, close⟩, -⟩ := settled round late
  exact ⟨frame, played, close⟩

end KetPhone.Media
