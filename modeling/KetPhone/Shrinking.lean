/-
This file proves what a pop of the jitter buffer may do to let the delay shrink.

The loop of a pop passes a slot only while the playout point is more than a frame
and a half above the target, and each slot takes one frame off, so that the slot
which is then played or concealed is still above it. A frame that is queued is only
passed as a drop, and after a drop the count of pops starts again, so that the next
one is ten pops away. The target itself is always defined: whatever sets the playout
point or queues a frame has recorded a transit time before.
-/

import KetPhone.MediaSession

namespace KetPhone.Media

open List

/-! ### The calls of a pop -/

namespace JitterBuffer

variable (buffer : JitterBuffer)

theorem startAt_eq_self {next : Int} (point : buffer.next = some next) :
    buffer.startAt next = buffer := by
  cases buffer
  cases point
  rfl

/-- A pop waits, or it goes on from the playout point, which may be that of the first frame. -/
theorem pop_cases (nowUs : Int) :
    buffer.pop nowUs = (.buffering, [], buffer) ∨
      ∃ starts next, (buffer.frames.values ≠ [] ∨ buffer.next.isSome = true) ∧
        (∀ happening ∈ starts, happening = .started next) ∧
        (buffer.next = none → starts = [.started next]) ∧
        buffer.pop nowUs = (((buffer.startAt next).advance nowUs next).1,
          starts ++ ((buffer.startAt next).advance nowUs next).2.1,
          ((buffer.startAt next).advance nowUs next).2.2) := by
  unfold pop
  split
  next next point =>
    refine Or.inr ⟨[], next, Or.inr (by rw [point]; rfl), by simp,
      fun idle => absurd (point.symm.trans idle) nofun, ?_⟩
    rw [buffer.startAt_eq_self point]
    rfl
  next idle =>
    split
    · exact Or.inl rfl
    next first head =>
      split
      · exact Or.inl rfl
      · refine Or.inr ⟨[.started first.sequence], first.sequence, Or.inl ?_, by simp,
          fun _ => rfl, rfl⟩
        rintro empty
        rw [empty] at head
        cases head

/-! ### Drops -/

/-- A call that drops nothing, or one frame when the last drop is ten pops away. -/
def Sparing (rise : Nat) (first second : JitterBuffer) : Prop :=
  (second.dropped = first.dropped ∧ second.popsSinceDrop ≤ first.popsSinceDrop + rise) ∨
    (second.dropped = first.dropped + 1 ∧ kPopsBetweenDrops ≤ first.popsSinceDrop ∧
      second.popsSinceDrop ≤ rise)

theorem shrink_sparing (desired : Int) (rounds : Nat) (next offset : Int) :
    Sparing 0 buffer (buffer.shrink desired rounds next offset).2.2 := by
  induction rounds generalizing buffer next offset with
  | zero => exact Or.inl ⟨rfl, Nat.le_refl _⟩
  | succ rounds hypothesis =>
    unfold shrink
    split
    · split
      · exact hypothesis (buffer.skipSlot next) (next + 1) (offset - kFrameUs)
      · split
        next due =>
          -- The count starts again, so that the loop cannot drop a second frame.
          rcases hypothesis (buffer.dropFrame next) (next + 1) (offset - kFrameUs) with
            ⟨dropped, pops⟩ | ⟨-, again, -⟩
          · exact Or.inr ⟨dropped, due, pops⟩
          · exact absurd again (Nat.not_succ_le_zero _)
        · exact Or.inl ⟨rfl, Nat.le_refl _⟩
    · exact Or.inl ⟨rfl, Nat.le_refl _⟩

theorem take_sparing (next : Int) :
    (buffer.take next).2.2.dropped = buffer.dropped ∧
      (buffer.take next).2.2.popsSinceDrop ≤ buffer.popsSinceDrop := by
  unfold take
  split
  · exact ⟨rfl, Nat.le_refl _⟩
  · dsimp only
    split
    · exact ⟨rfl, Nat.zero_le _⟩
    · exact ⟨rfl, Nat.le_refl _⟩

theorem advance_sparing (nowUs next : Int) :
    Sparing 1 buffer (buffer.advance nowUs next).2.2 := by
  unfold advance
  dsimp only
  split
  · exact Or.inl ⟨rfl, Nat.le_refl _⟩
  · have passed := buffer.shrink_sparing buffer.desiredOffsetUs
      (rounds buffer.desiredOffsetUs (nowUs - next * kFrameUs)) next (nowUs - next * kFrameUs)
    generalize buffer.shrink _ _ _ _ = ended at passed ⊢
    obtain ⟨dropped, pops⟩ := ended.2.2.countPop.take_sparing ended.2.1
    have counted : ended.2.2.countPop.popsSinceDrop = ended.2.2.popsSinceDrop + 1 := rfl
    rcases passed with ⟨same, fewer⟩ | ⟨more, due, fewer⟩
    · exact Or.inl ⟨dropped.trans same, pops.trans (by omega)⟩
    · exact Or.inr ⟨dropped.trans more, due, pops.trans (by omega)⟩

theorem pop_sparing (nowUs : Int) : Sparing 1 buffer (buffer.pop nowUs).2.2 := by
  rcases buffer.pop_cases nowUs with waits | ⟨starts, next, -, -, -, moved⟩
  · rw [waits]
    exact Or.inl ⟨rfl, Nat.le_succ _⟩
  · rw [moved]
    exact (buffer.startAt next).advance_sparing nowUs next

theorem put_sparing (sequence : Int) (payload : Bytes) (arrivalUs : Int) :
    (buffer.put sequence payload arrivalUs).2.2.dropped = buffer.dropped ∧
      (buffer.put sequence payload arrivalUs).2.2.popsSinceDrop ≤ buffer.popsSinceDrop := by
  have emplaced : ∀ (frame : Frame) (buffer : JitterBuffer),
      (buffer.emplace frame).2.2.dropped = buffer.dropped ∧
        (buffer.emplace frame).2.2.popsSinceDrop = buffer.popsSinceDrop := by
    intro frame buffer
    unfold emplace
    split <;> exact ⟨rfl, rfl⟩
  have placed : ∀ (frame : Frame) (buffer : JitterBuffer),
      (buffer.place frame).2.2.dropped = buffer.dropped ∧
        (buffer.place frame).2.2.popsSinceDrop = buffer.popsSinceDrop := by
    intro frame buffer
    unfold place
    split
    · exact emplaced frame buffer
    · split
      · dsimp only
        split
        · exact ⟨rfl, rfl⟩
        · exact emplaced frame (buffer.rewindTo frame.sequence)
      · exact emplaced frame buffer
  obtain ⟨dropped, pops⟩ := placed { sequence, payload }
    ((buffer.rejoin sequence).2.recordTransit (arrivalUs - sequence * kFrameUs))
  have rejoined : (buffer.rejoin sequence).2.dropped = buffer.dropped ∧
      (buffer.rejoin sequence).2.popsSinceDrop ≤ buffer.popsSinceDrop := by
    unfold rejoin
    split
    · exact ⟨rfl, Nat.zero_le _⟩
    · exact ⟨rfl, Nat.le_refl _⟩
  exact ⟨dropped.trans rejoined.1, pops.le.trans rejoined.2⟩

end JitterBuffer

def BufferOp.isPop : BufferOp → Bool
  | .pop _ => true
  | .put .. | .reset => false

namespace JitterBuffer

variable {buffer : JitterBuffer}

theorem step_sparing (op : BufferOp) :
    (op.isPop = true ∧ Sparing 1 buffer (buffer.step op)) ∨
      (op.isPop = false ∧ (buffer.step op).dropped = buffer.dropped ∧
        (buffer.step op).popsSinceDrop ≤ buffer.popsSinceDrop) := by
  cases op with
  | put sequence payload arrivalUs =>
    exact Or.inr ⟨rfl, buffer.put_sparing sequence payload arrivalUs⟩
  | pop nowUs => exact Or.inl ⟨rfl, buffer.pop_sparing nowUs⟩
  | reset => exact Or.inr ⟨rfl, rfl, Nat.zero_le _⟩

/-- Until ten pops have been counted nothing is dropped. -/
theorem run_drops_none {ops : List BufferOp}
    (few : buffer.popsSinceDrop + ops.countP BufferOp.isPop ≤ kPopsBetweenDrops) :
    (run step buffer ops).dropped = buffer.dropped := by
  induction ops generalizing buffer with
  | nil => rfl
  | cons op ops hypothesis =>
    rw [countP_cons] at few
    rcases @step_sparing buffer op with
      ⟨pop, ⟨dropped, pops⟩ | ⟨-, due, -⟩⟩ | ⟨other, dropped, pops⟩
    · rw [if_pos pop] at few
      exact (hypothesis (by omega)).trans dropped
    · rw [if_pos pop] at few
      omega
    · rw [other] at few
      exact (hypothesis (by simp_all; omega)).trans dropped

theorem run_drops_one {ops : List BufferOp}
    (ten : ops.countP BufferOp.isPop ≤ kPopsBetweenDrops) :
    (run step buffer ops).dropped ≤ buffer.dropped + 1 := by
  induction ops generalizing buffer with
  | nil => exact Nat.le_succ _
  | cons op ops hypothesis =>
    rw [countP_cons] at ten
    rcases @step_sparing buffer op with
      ⟨pop, ⟨dropped, -⟩ | ⟨dropped, -, pops⟩⟩ | ⟨other, dropped, -⟩
    · exact (hypothesis (by omega)).trans_eq (congrArg (· + 1) dropped)
    · -- After the drop there are at most nine pops to come.
      rw [if_pos pop] at ten
      exact ((run_drops_none (by omega)).trans dropped).le
    · exact (hypothesis (by omega)).trans_eq (congrArg (· + 1) dropped)

end JitterBuffer

/-- Ten pops in a row drop one frame at most, whatever happens in between. -/
theorem drops_rate_limited (initialDelayUs : Int) (before between : List BufferOp)
    (ten : between.countP BufferOp.isPop ≤ 10) :
    (run JitterBuffer.step (.create initialDelayUs) (before ++ between)).dropped ≤
      (run JitterBuffer.step (.create initialDelayUs) before).dropped + 1 := by
  rw [run_append]
  exact JitterBuffer.run_drops_one ten

/-- A call in which playout waits for ten pops, and is then far behind the frames queued. -/
def shrinkingCall : List BufferOp :=
  .put 0 [] 0 :: .pop 300000 :: .put 1 [] 100000 :: List.replicate 10 (.pop 0) ++
    [.put 2 [] 0, .put 3 [] 0]

theorem shrinkingCall_drops_rate_limited :
    (List.replicate 10 (BufferOp.pop 900000)).countP BufferOp.isPop ≤ 10 ∧
      (run JitterBuffer.step (.create 10000)
          (shrinkingCall ++ List.replicate 10 (.pop 900000))).dropped ≤
        (run JitterBuffer.step (.create 10000) shrinkingCall).dropped + 1 :=
  ⟨by decide, drops_rate_limited 10000 shrinkingCall _ (by decide)⟩

/-! ### The window -/

namespace JitterBuffer

/-- The window holds samples whenever the target is asked for. -/
structure Usable (buffer : JitterBuffer) : Prop where
  initial : kMarginUs ≤ buffer.initialDelayUs ∧ buffer.initialDelayUs ≤ kMaxDelayUs
  length : buffer.window.length = kWindow
  count : buffer.windowCount ≤ kWindow
  place : buffer.windowNext < kWindow
  heard : buffer.frames.values ≠ [] ∨ buffer.next.isSome = true → 1 ≤ buffer.windowCount

variable {buffer after : JitterBuffer}

theorem Usable.reset (usable : Usable buffer) : Usable buffer.reset :=
  ⟨usable.initial, usable.length, Nat.zero_le _, Nat.zero_lt_succ _, by simp [JitterBuffer.reset,
    OrderedMap.empty]⟩

theorem Usable.unwound (usable : Usable buffer) (heard : 1 ≤ buffer.windowCount)
    (unwound : Unwound buffer after) : Usable after := by
  obtain ⟨initial, window, count, next⟩ := unwound
  refine ⟨initial ▸ usable.initial, window ▸ usable.length, count ▸ usable.count,
    next ▸ usable.place, fun _ => count ▸ heard⟩

theorem Usable.recordTransit (usable : Usable buffer) (transitUs : Int) :
    Usable (buffer.recordTransit transitUs) ∧
      1 ≤ (buffer.recordTransit transitUs).windowCount := by
  have filled : 1 ≤ min (buffer.windowCount + 1) kWindow :=
    le_min (Nat.le_add_left _ _) (by decide)
  refine ⟨⟨usable.initial, ?_, Nat.min_le_right _ _, Nat.mod_lt _ (by decide),
    fun _ => filled⟩, filled⟩
  exact length_set.trans usable.length

theorem Usable.advance (usable : Usable buffer) (heard : 1 ≤ buffer.windowCount)
    (nowUs next : Int) : Usable (buffer.advance nowUs next).2.2 := by
  have taken : ∀ (slot : Int) (other : JitterBuffer), Unwound buffer other →
      Usable (other.take slot).2.2 := by
    intro slot other unwound
    unfold take
    split
    · exact usable.unwound heard unwound
    · dsimp only
      have missed : Usable (other.missSlot slot) := usable.unwound heard unwound
      split
      · exact missed.reset
      · exact missed
  unfold JitterBuffer.advance
  dsimp only
  split
  · exact usable.unwound heard ⟨rfl, rfl, rfl, rfl⟩
  · refine taken _ _ ?_
    exact (@shrink_carry buffer buffer buffer.window _ _ _ _).2

theorem Usable.step (usable : Usable buffer) (op : BufferOp) : Usable (buffer.step op) := by
  cases op with
  | put sequence payload arrivalUs =>
    have rejoined : Usable (buffer.rejoin sequence).2 := by
      unfold rejoin
      split
      · exact usable.reset
      · exact usable
    obtain ⟨recorded, heard⟩ := rejoined.recordTransit (arrivalUs - sequence * kFrameUs)
    exact recorded.unwound heard (@place_carry buffer _ buffer.window { sequence, payload }).2
  | pop nowUs =>
    show Usable (buffer.pop nowUs).2.2
    rcases buffer.pop_cases nowUs with waits | ⟨starts, next, active, -, -, moved⟩
    · rw [waits]
      exact usable
    · have heard := usable.heard active
      have started : Usable (buffer.startAt next) := usable.unwound heard ⟨rfl, rfl, rfl, rfl⟩
      rw [moved]
      exact started.advance heard nowUs next
  | reset => exact usable.reset

theorem usable_run (initialDelayUs : Int) (ops : List BufferOp) :
    Usable (run JitterBuffer.step (.create initialDelayUs) ops) := by
  refine loop_keeps Usable ops (fun _ op _ usable => usable.step op) ?_
  refine ⟨?_, length_replicate, Nat.zero_le _, Nat.zero_lt_succ _, by simp [create,
    OrderedMap.empty]⟩
  exact ⟨le_max_left _ _, max_le (by decide) (min_le_left _ _)⟩

/-- The states in which a pop asks for the desired offset. -/
def offsetsAsked (nowUs : Int) (buffer : JitterBuffer) : List JitterBuffer :=
  match buffer.next with
  | some _ => [buffer]
  | none =>
    match buffer.frames.values.head? with
    | none => []
    | some first =>
      if nowUs - first.sequence * kFrameUs < buffer.desiredOffsetUs then [buffer]
      else [buffer, buffer.startAt first.sequence]

/-- The place of the percentile in the sorted window. -/
def percentileIndex (buffer : JitterBuffer) : Nat := ((buffer.windowCount - 1) * 99 + 99) / 100

theorem Usable.samples (usable : Usable buffer) (heard : 1 ≤ buffer.windowCount) :
    buffer.samples.length = buffer.windowCount ∧ buffer.samples ≠ [] ∧
      buffer.percentileIndex < buffer.windowCount := by
  have length : buffer.samples.length = buffer.windowCount := by
    unfold JitterBuffer.samples
    rw [length_take, usable.length]
    exact Nat.min_eq_left usable.count
  refine ⟨length, ?_, ?_⟩
  · rw [← length_pos_iff, length]
    exact heard
  · unfold percentileIndex
    omega

theorem Usable.targetDelayUs (usable : Usable buffer) :
    10000 ≤ buffer.targetDelayUs ∧ buffer.targetDelayUs ≤ 300000 := by
  unfold JitterBuffer.targetDelayUs
  split
  · exact usable.initial
  · unfold desiredOffsetUs
    dsimp only
    rw [add_sub_cancel_left]
    exact ⟨le_max_left _ _, max_le (by decide) (min_le_left _ _)⟩

end JitterBuffer

/-- Whenever a frame is queued or playout has started there is a sample in the window, so that
each desired offset asked for is one of a window that is not empty. -/
theorem window_usable (initialDelayUs : Int) (ops : List BufferOp) :
    let buffer := run JitterBuffer.step (.create initialDelayUs) ops
    (buffer.frames.values ≠ [] ∨ buffer.next.isSome = true → 1 ≤ buffer.windowCount) ∧
      buffer.windowCount ≤ 250 ∧ buffer.windowNext < 250 ∧
      (∀ nowUs, ∀ asked ∈ buffer.offsetsAsked nowUs,
        asked.samples.length = asked.windowCount ∧ asked.samples ≠ [] ∧
          asked.percentileIndex < asked.windowCount) ∧
      (buffer.windowCount ≠ 0 →
        buffer.samples.length = buffer.windowCount ∧ buffer.samples ≠ [] ∧
          buffer.percentileIndex < buffer.windowCount) ∧
      10000 ≤ buffer.targetDelayUs ∧ buffer.targetDelayUs ≤ 300000 := by
  intro buffer
  have usable : buffer.Usable := JitterBuffer.usable_run initialDelayUs ops
  refine ⟨usable.heard, usable.count, usable.place, fun nowUs asked member => ?_,
    fun filled => usable.samples (Nat.one_le_iff_ne_zero.mpr filled), usable.targetDelayUs⟩
  unfold JitterBuffer.offsetsAsked at member
  split at member
  next next point =>
    rw [mem_singleton.mp member]
    exact usable.samples (usable.heard (Or.inr (by rw [point]; rfl)))
  next idle =>
    split at member
    · exact absurd member not_mem_nil
    next first head =>
      have heard := usable.heard (Or.inl (by rintro empty; rw [empty] at head; cases head))
      split at member
      · rw [mem_singleton.mp member]
        exact usable.samples heard
      · rcases mem_cons.mp member with rfl | started
        · exact usable.samples heard
        · rw [mem_singleton.mp started]
          exact usable.samples heard

/-! ### Times -/

namespace Happening

/-- The slot that a pop plays or conceals. -/
def takenSlot : Happening → Option Int
  | .played frame => some frame.sequence
  | .missed number => some number
  | _ => none

/-- The slot that a pop passes over. -/
def passedSlot : Happening → Option Int
  | .dropped frame => some frame.sequence
  | .skipped number => some number
  | _ => none

/-- A slot from the playout point on is passed while it is far above the target: a frame is dropped
that is queued for it, or it is skipped without one. -/
def Overdue (nowUs desired next : Int) (frames : OrderedMap Frame.sequence) : Happening → Prop
  | .dropped frame => next ≤ frame.sequence ∧ frames.find frame.sequence = some frame ∧
      desired + 30000 < nowUs - 20000 * frame.sequence
  | .skipped slot => next ≤ slot ∧ frames.find slot = none ∧
      desired + 30000 < nowUs - 20000 * slot
  | _ => False

theorem Overdue.mono {nowUs desired next : Int} {frames fewer : OrderedMap Frame.sequence}
    (same : ∀ slot, next + 1 ≤ slot → fewer.find slot = frames.find slot) {happening : Happening}
    (overdue : happening.Overdue nowUs desired (next + 1) fewer) :
    happening.Overdue nowUs desired next frames := by
  cases happening with
  | dropped frame =>
    obtain ⟨later, found, above⟩ := overdue
    exact ⟨by omega, same _ later ▸ found, above⟩
  | skipped slot =>
    obtain ⟨later, absent, above⟩ := overdue
    exact ⟨by omega, same _ later ▸ absent, above⟩
  | stored | rewound | started | played | missed | reset => exact overdue.elim

end Happening

namespace JitterBuffer

/-- What the loop of a pop does to a buffer with this playout point. -/
structure Shrunk (nowUs desired next : Int) (buffer : JitterBuffer)
    (shrunk : List Happening × Int × JitterBuffer) : Prop where
  overdue : ∀ happening ∈ shrunk.1, happening.Overdue nowUs desired next buffer.frames
  above : shrunk.1 ≠ [] → desired + 10000 < nowUs - 20000 * shrunk.2.1
  stays : shrunk.1 = [] → shrunk.2.1 = next
  ahead : next ≤ shrunk.2.1
  same : ∀ slot, shrunk.2.1 ≤ slot → shrunk.2.2.frames.find slot = buffer.frames.find slot
  fates : ∀ frame ∈ buffer.frames.values,
    frame ∈ shrunk.2.2.frames.values ∨ .dropped frame ∈ shrunk.1

variable {nowUs desired next : Int} {buffer : JitterBuffer}

theorem Shrunk.refl : Shrunk nowUs desired next buffer ([], next, buffer) :=
  ⟨by simp, by simp, fun _ => rfl, le_refl _, fun _ _ => rfl, fun _ member => Or.inl member⟩

/-- A slot is passed first. -/
theorem Shrunk.pass {middle : JitterBuffer} {happening : Happening}
    {shrunk : List Happening × Int × JitterBuffer}
    (far : desired + 30000 < nowUs - 20000 * next)
    (first : happening.Overdue nowUs desired next buffer.frames)
    (same : ∀ slot, next + 1 ≤ slot → middle.frames.find slot = buffer.frames.find slot)
    (fates : ∀ frame ∈ buffer.frames.values,
      frame ∈ middle.frames.values ∨ happening = .dropped frame)
    (rest : Shrunk nowUs desired (next + 1) middle shrunk) :
    Shrunk nowUs desired next buffer (happening :: shrunk.1, shrunk.2) := by
  have ahead := rest.ahead
  refine ⟨?_, fun _ => ?_, nofun, by dsimp only; omega, fun slot later => ?_, ?_⟩
  · intro other member
    rcases mem_cons.mp member with rfl | member
    · exact first
    · exact (rest.overdue other member).mono same
  · by_cases more : shrunk.1 = []
    · have stays := rest.stays more
      dsimp only
      omega
    · exact rest.above more
  · exact (rest.same slot later).trans (same slot (by dsimp only at later; omega))
  · intro frame member
    rcases fates frame member with kept | rfl
    · rcases rest.fates frame kept with kept | dropped
      · exact Or.inl kept
      · exact Or.inr (mem_cons_of_mem _ dropped)
    · exact Or.inr mem_cons_self

theorem shrink_shrunk (rounds : Nat) :
    Shrunk nowUs desired next buffer
      (buffer.shrink desired rounds next (nowUs - next * kFrameUs)) := by
  induction rounds generalizing buffer next with
  | zero => exact .refl
  | succ rounds hypothesis =>
    have less : nowUs - next * kFrameUs - kFrameUs = nowUs - (next + 1) * kFrameUs := by
      unfold kFrameUs
      omega
    unfold shrink
    split
    next loops =>
      have far : desired + 30000 < nowUs - 20000 * next := by
        have above : nowUs - next * 20000 > desired + (20000 + 10000) := loops.1
        omega
      rw [less]
      split
      next absent =>
        have same : (buffer.skipSlot next).frames = buffer.frames := rfl
        refine (@hypothesis (next + 1) (buffer.skipSlot next)).pass far ⟨le_refl _, absent, far⟩
          (fun _ _ => ?_) fun _ member => Or.inl ?_
        · rw [same]
        · rwa [same]
      next frame found =>
        obtain rfl : frame.sequence = next := OrderedMap.keyOf_of_find found
        split
        · refine (@hypothesis _ (buffer.dropFrame frame.sequence)).pass far
            ⟨le_refl _, found, far⟩ (fun slot later => ?_) fun other member => ?_
          · refine (OrderedMap.find_erase _ _ _).trans (if_neg ?_)
            omega
          · by_cases same : other.sequence = frame.sequence
            · exact Or.inr (congrArg _ (OrderedMap.eq_of_key_eq _ member
                (OrderedMap.find_eq_some_iff.mp found).1 same.symm))
            · exact Or.inl (OrderedMap.mem_values_erase.mpr ⟨member, same⟩)
        · exact .refl
    · exact .refl

end JitterBuffer

/-- How a slot is taken from a queue. -/
inductive Happening.Takes (frames : OrderedMap Frame.sequence) (slot : Int) : Happening → Prop
  | played (frame : Frame) (found : frames.find slot = some frame) :
      Takes frames slot (.played frame)
  | missed (absent : frames.find slot = none) : Takes frames slot (.missed slot)
  | reset : Takes frames slot (.reset [])

theorem Happening.Takes.takenSlot {frames : OrderedMap Frame.sequence} {slot other : Int}
    {happening : Happening} (takes : happening.Takes frames slot)
    (taken : happening.takenSlot = some other) : other = slot := by
  cases takes with
  | played frame found =>
    rw [← OrderedMap.keyOf_of_find found]
    exact (Option.some.inj taken).symm
  | missed absent => exact (Option.some.inj taken).symm
  | reset => cases taken

namespace JitterBuffer

theorem take_takes (slot : Int) (buffer : JitterBuffer) :
    (∀ happening ∈ (buffer.take slot).2.1, happening.Takes buffer.frames slot) ∧
      ∀ frame ∈ buffer.frames.values,
        frame ∈ (buffer.take slot).2.2.frames.values ∨ .played frame ∈ (buffer.take slot).2.1 := by
  unfold take
  split
  next frame found =>
    refine ⟨fun happening member => mem_singleton.mp member ▸ .played frame found,
      fun other member => ?_⟩
    by_cases same : other.sequence = slot
    · obtain ⟨inside, key⟩ := OrderedMap.find_eq_some_iff.mp found
      rw [OrderedMap.eq_of_key_eq _ inside member (same.trans key.symm)]
      exact Or.inr mem_cons_self
    · exact Or.inl (OrderedMap.mem_values_erase.mpr ⟨member, same⟩)
  next absent =>
    dsimp only
    split
    next dry =>
      have empty : buffer.frames.values = [] := List.isEmpty_iff.mp dry.1
      refine ⟨fun happening member => ?_, fun frame member => ?_⟩
      · rcases mem_cons.mp member with rfl | member
        · exact .missed absent
        · have discarded : (buffer.missSlot slot).frames.values = [] := empty
          rw [mem_singleton.mp member, discarded]
          exact .reset
      · rw [empty] at member
        exact absurd member not_mem_nil
    · exact ⟨fun happening member => mem_singleton.mp member ▸ .missed absent,
        fun _ member => Or.inl member⟩

/-- What a pop does to the slots once the playout point is set: those it passes and the one it
takes. -/
structure Advanced (nowUs next : Int) (buffer : JitterBuffer) (passed late : List Happening)
    (slot : Int) (after : JitterBuffer) : Prop where
  overdue : ∀ happening ∈ passed,
    happening.Overdue nowUs buffer.desiredOffsetUs next buffer.frames
  above : passed ≠ [] → buffer.desiredOffsetUs + 10000 < nowUs - 20000 * slot
  due : late ≠ [] → buffer.desiredOffsetUs ≤ nowUs - 20000 * slot
  takes : ∀ happening ∈ late, happening.Takes buffer.frames slot
  fates : ∀ frame ∈ buffer.frames.values,
    frame ∈ after.frames.values ∨ .dropped frame ∈ passed ∨ .played frame ∈ late

theorem advance_advanced (nowUs next : Int) (buffer : JitterBuffer) :
    ∃ passed late slot, (buffer.advance nowUs next).2.1 = passed ++ late ∧
      Advanced nowUs next buffer passed late slot (buffer.advance nowUs next).2.2 := by
  unfold advance
  dsimp only
  split
  · exact ⟨[], [], next, rfl, by simp, by simp, by simp, by simp, fun _ member => Or.inl member⟩
  next due =>
    have shrunk := @shrink_shrunk nowUs buffer.desiredOffsetUs next buffer
      (rounds buffer.desiredOffsetUs (nowUs - next * kFrameUs))
    generalize buffer.shrink _ _ _ _ = ended at shrunk ⊢
    obtain ⟨takes, fates⟩ := ended.2.2.countPop.take_takes ended.2.1
    refine ⟨ended.1, _, ended.2.1, rfl, shrunk.overdue, shrunk.above, fun _ => ?_, ?_, ?_⟩
    · by_cases empty : ended.1 = []
      · rw [shrunk.stays empty]
        have reached : ¬ nowUs - next * 20000 < buffer.desiredOffsetUs := due
        omega
      · have above := shrunk.above empty
        omega
    · intro happening member
      cases takes happening member with
      | played frame found => exact .played frame (shrunk.same _ (le_refl _) ▸ found)
      | missed absent => exact .missed (shrunk.same _ (le_refl _) ▸ absent)
      | reset => exact .reset
    · intro frame member
      rcases shrunk.fates frame member with kept | dropped
      · rcases fates frame kept with kept | played
        · exact Or.inl kept
        · exact Or.inr (Or.inr played)
      · exact Or.inr (Or.inl dropped)

theorem pop_advanced (nowUs : Int) (buffer : JitterBuffer) :
    ∃ starts next passed late slot, (buffer.pop nowUs).2.1 = starts ++ (passed ++ late) ∧
      (∀ happening ∈ starts, happening = .started next) ∧
      Advanced nowUs next buffer passed late slot (buffer.pop nowUs).2.2 := by
  rcases buffer.pop_cases nowUs with waits | ⟨starts, next, -, started, -, moved⟩
  · rw [waits]
    exact ⟨[], 0, [], [], 0, rfl, by simp, by simp, by simp, by simp, by simp,
      fun _ member => Or.inl member⟩
  · obtain ⟨passed, late, slot, happened, advanced⟩ :=
      (buffer.startAt next).advance_advanced nowUs next
    rw [moved]
    exact ⟨starts, next, passed, late, slot, congrArg (starts ++ ·) happened, started,
      advanced.overdue, advanced.above, advanced.due, advanced.takes, advanced.fates⟩

/-- A pop at this time plays, conceals and passes slots only when they are due. -/
structure InTime (nowUs : Int) (buffer : JitterBuffer) : Prop where
  /-- The frame that is handed over is the one played, and its number is kept. -/
  played : ∀ payload, (buffer.pop nowUs).1 = .played payload →
    ∃ frame, .played frame ∈ (buffer.pop nowUs).2.1 ∧ frame.payload = payload ∧
      (buffer.pop nowUs).2.2.lastPlayed = some frame.sequence
  missing : (buffer.pop nowUs).1 = .missing → ∃ slot, .missed slot ∈ (buffer.pop nowUs).2.1
  due : ∀ happening ∈ (buffer.pop nowUs).2.1, ∀ slot, happening.takenSlot = some slot →
    buffer.desiredOffsetUs ≤ nowUs - 20000 * slot
  absent : ∀ slot, .missed slot ∈ (buffer.pop nowUs).2.1 ∨ .skipped slot ∈ (buffer.pop nowUs).2.1 →
    buffer.frames.find slot = none
  skipped : (buffer.pop nowUs).2.2.skipped = buffer.skipped +
    ((buffer.pop nowUs).2.1.filterMap Happening.skippedSlot).length
  /-- A frame stays queued in front of the playout point, is played or is dropped. -/
  fates : ∀ frame ∈ buffer.frames.values,
    (frame ∈ (buffer.pop nowUs).2.2.frames.values ∧
        ∀ next, (buffer.pop nowUs).2.2.next = some next → next ≤ frame.sequence) ∨
      .played frame ∈ (buffer.pop nowUs).2.1 ∨ .dropped frame ∈ (buffer.pop nowUs).2.1
  dropped : (buffer.pop nowUs).2.2.dropped = buffer.dropped +
    ((buffer.pop nowUs).2.1.filterMap Happening.droppedFrame).length
  far : ∀ frame, .dropped frame ∈ (buffer.pop nowUs).2.1 →
    buffer.desiredOffsetUs + 30000 < nowUs - 20000 * frame.sequence
  /-- Shrinking does not reach the target. -/
  above : (∃ happening ∈ (buffer.pop nowUs).2.1, happening.passedSlot.isSome = true) →
    ∀ happening ∈ (buffer.pop nowUs).2.1, ∀ slot, happening.takenSlot = some slot →
      buffer.desiredOffsetUs + 10000 < nowUs - 20000 * slot

end JitterBuffer

theorem Moves.counted {first second : Playout} {happened : List Happening}
    (moves : Moves first happened second) :
    second.dropped = first.dropped + (happened.filterMap Happening.droppedFrame).length ∧
      second.skipped = first.skipped + (happened.filterMap Happening.skippedSlot).length := by
  induction moves with
  | nil => exact ⟨rfl, rfl⟩
  | cons move _ hypothesis =>
    obtain ⟨dropped, skipped⟩ := hypothesis
    rw [dropped, skipped]
    cases move with
    | dropped => exact ⟨Nat.add_right_comm _ 1 _, rfl⟩
    | skipped => exact ⟨rfl, Nat.add_right_comm _ 1 _⟩
    | stored | rewound | started | played | missed | reset => exact ⟨rfl, rfl⟩

/-- In every run, no frame is played or given up before its time, and shrinking does not reach the
target. -/
theorem pop_in_time (initialDelayUs : Int) (ops : List BufferOp) (nowUs : Int) :
    (run JitterBuffer.step (.create initialDelayUs) ops).InTime nowUs := by
  have settled := (tracked_run initialDelayUs ops).ascending.settled
  generalize run JitterBuffer.step (.create initialDelayUs) ops = buffer at settled
  have moves := buffer.pop_moves nowUs
  obtain ⟨dropped, skipped⟩ := moves.counted
  obtain ⟨early, end', shape, -, ends⟩ := buffer.pop_shape nowUs
  obtain ⟨starts, next, passed, late, slot, happened, started, advanced⟩ :=
    buffer.pop_advanced nowUs
  -- A slot that is taken is the one after those passed, and a slot passed is overdue.
  have taken : ∀ happening ∈ (buffer.pop nowUs).2.1, ∀ other, happening.takenSlot = some other →
      late ≠ [] ∧ other = slot ∧ happening.Takes buffer.frames slot := by
    intro happening member other takes
    rw [happened] at member
    rcases mem_append.mp member with start | member
    · rw [started happening start] at takes
      cases takes
    · rcases mem_append.mp member with pass | member
      · have overdue := advanced.overdue happening pass
        cases happening with
        | played | missed => exact overdue.elim
        | stored | rewound | started | dropped | skipped | reset => cases takes
      · have here := advanced.takes happening member
        exact ⟨ne_nil_of_mem member, here.takenSlot takes, here⟩
  have passes : ∀ happening ∈ (buffer.pop nowUs).2.1, happening.passedSlot.isSome = true →
      happening ∈ passed := by
    intro happening member pass
    rw [happened] at member
    rcases mem_append.mp member with start | member
    · rw [started happening start] at pass
      cases pass
    · rcases mem_append.mp member with inside | member
      · exact inside
      · cases advanced.takes happening member with
        | played | missed | reset => cases pass
  refine ⟨?_, ?_, ?_, ?_, skipped, ?_, dropped, ?_, ?_⟩
  · intro payload played
    rw [shape]
    rw [played] at ends
    cases ends with
    | played frame last => exact ⟨frame, by simp, rfl, last⟩
  · intro missing
    rw [shape]
    rw [missing] at ends
    cases ends with
    | missed number => exact ⟨number, by simp⟩
    | rebuffered number discarded idle => exact ⟨number, by simp⟩
  · intro happening member other takes
    obtain ⟨known, rfl, -⟩ := taken happening member other takes
    exact advanced.due known
  · rintro other (missed | skips)
    · obtain ⟨-, rfl, takes⟩ := taken _ missed other rfl
      cases takes with
      | missed absent => exact absent
    · exact (advanced.overdue _ (passes _ skips rfl)).2.1
  · intro frame member
    rw [happened]
    rcases advanced.fates frame member with kept | dropped | played
    · exact Or.inl ⟨kept, fun point at' => (settled.moves moves).queued point at' frame kept⟩
    · exact Or.inr (Or.inr (by simp [dropped]))
    · exact Or.inr (Or.inl (by simp [played]))
  · intro frame drops
    exact (advanced.overdue _ (passes _ drops rfl)).2.2
  · rintro ⟨happening, member, pass⟩ other inside number takes
    obtain ⟨-, rfl, -⟩ := taken other inside number takes
    exact advanced.above (ne_nil_of_mem (passes happening member pass))

end KetPhone.Media
