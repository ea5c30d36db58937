/-
This file models `media/jitter_buffer.cpp`. Frames wait in a map under their
extended sequence numbers, and the playout point moves over the slots: a pop plays
the frame of a slot, finds it missing, repeats a frame to let the delay grow, or
passes over slots to let it shrink.

Each function also lists what it did to the frames and the slots, which the source
does not return. The list is read against a small machine of its own, the playout,
that knows the queue, the playout point and the last frame played and allows one
move for each entry. Every call of the code is a run of this machine, and what is
proved of the playout holds of the buffer.

Times are microseconds, and they and the sequence numbers are unbounded integers.
-/

import KetPhone.Bytes
import KetPhone.OrderedMap
import KetPhone.Run
import Mathlib.Data.List.Sort
import Mathlib.Algebra.Order.Group.Int

namespace KetPhone.Media

open List

/-! ### The code -/

def kFrameUs : Int := 20000

/-- Transit samples kept: five seconds of 20 ms frames. -/
def kWindow : Nat := 250

/-- Until this many samples exist, the configured initial delay is a floor. -/
def kWarmup : Nat := 50

/-- Headroom above the 99th percentile spread. -/
def kMarginUs : Int := 10000

def kMaxDelayUs : Int := 300000

/-- Playout shrinks only once it is this far above the target. -/
def kShrinkAboveUs : Int := kFrameUs + 10000

/-- Frames are discarded at most once per this many pops. -/
def kPopsBetweenDrops : Nat := 10

/-- How far back playout may step for a late frame when the buffer ran dry. -/
def kMaxRewind : Int := 15

/-- After this many missing frames with nothing queued, the stream has stopped. -/
def kMissingBeforeRebuffer : Nat := 10

/-- A frame this far ahead of the playout point means the stream jumped. -/
def kMaxAhead : Int := 500

/-- A frame with the number it is kept under. -/
structure Frame where
  sequence : Int
  payload : Bytes
  deriving DecidableEq, Repr

structure JitterBuffer where
  initialDelayUs : Int
  frames : OrderedMap Frame.sequence := .empty
  next : Option Int := none
  lastPlayed : Option Int := none
  missingInARow : Nat := 0
  popsSinceDrop : Nat := 0
  window : List Int := List.replicate kWindow 0
  windowCount : Nat := 0
  windowNext : Nat := 0
  expanded : Nat := 0
  dropped : Nat := 0
  skipped : Nat := 0

inductive PutResult where
  | stored
  | late
  | duplicate
  deriving DecidableEq, Repr

inductive PopResult where
  /-- With the frame that `pop` hands over. -/
  | played (payload : Bytes)
  | missing
  | expanded
  | buffering
  deriving DecidableEq, Repr

/-- What a call does to the frames and the slots. -/
inductive Happening where
  | stored (frame : Frame)
  /-- The playout point steps back over this many slots. -/
  | rewound (slots : Int)
  /-- The playout point is set to this slot. -/
  | started (number : Int)
  | dropped (frame : Frame)
  | skipped (number : Int)
  | played (frame : Frame)
  | missed (number : Int)
  /-- With the frames that were queued. -/
  | reset (discarded : List Frame)
  deriving DecidableEq

/-- `std::clamp` to the delays that the buffer may aim for. -/
def clampDelay (delay : Int) : Int := max kMarginUs (min kMaxDelayUs delay)

namespace JitterBuffer

/-- The constructor. -/
def create (initialDelayUs : Int) : JitterBuffer := { initialDelayUs := clampDelay initialDelayUs }

def size (buffer : JitterBuffer) : Nat := buffer.frames.values.length

def reset (buffer : JitterBuffer) : JitterBuffer :=
  { buffer with
    frames := .empty
    next := none
    lastPlayed := none
    missingInARow := 0
    popsSinceDrop := 0
    windowCount := 0
    windowNext := 0 }

def recordTransit (transitUs : Int) (buffer : JitterBuffer) : JitterBuffer :=
  { buffer with
    window := buffer.window.set buffer.windowNext transitUs
    windowNext := (buffer.windowNext + 1) % kWindow
    windowCount := min (buffer.windowCount + 1) kWindow }

/-- The samples of the window. -/
def samples (buffer : JitterBuffer) : List Int := buffer.window.take buffer.windowCount

/-- `std::min_element` of the samples. -/
def fastest (buffer : JitterBuffer) : Int := buffer.samples.min?.getD 0

/-- What `std::nth_element` puts at the place of the 99th percentile, rounded up. -/
def percentile (buffer : JitterBuffer) : Int :=
  (buffer.samples.insertionSort (· ≤ ·)).getD (((buffer.windowCount - 1) * 99 + 99) / 100) 0

def desiredOffsetUs (buffer : JitterBuffer) : Int :=
  let delay := buffer.percentile - buffer.fastest + kMarginUs
  let delay := if buffer.windowCount < kWarmup then max delay buffer.initialDelayUs else delay
  buffer.fastest + clampDelay delay

def targetDelayUs (buffer : JitterBuffer) : Int :=
  if buffer.windowCount = 0 then buffer.initialDelayUs
  else buffer.desiredOffsetUs - buffer.fastest

/-- `try_emplace`. -/
def emplace (frame : Frame) (buffer : JitterBuffer) : PutResult × List Happening × JitterBuffer :=
  match buffer.frames.find frame.sequence with
  | some _ => (.duplicate, [], buffer)
  | none => (.stored, [.stored frame], { buffer with frames := buffer.frames.put frame })

/-- Playout steps back to a late frame. -/
def rewindTo (number : Int) (buffer : JitterBuffer) : JitterBuffer :=
  { buffer with next := some number, missingInARow := 0 }

/-- The second half of `put`: the frame is too late, or playout steps back for it, or it is at the
playout point or ahead. -/
def place (frame : Frame) (buffer : JitterBuffer) : PutResult × List Happening × JitterBuffer :=
  match buffer.next with
  | none => buffer.emplace frame
  | some next =>
    if frame.sequence < next then
      let dry := buffer.frames.values.isEmpty
      let unplayedSince := buffer.lastPlayed.all fun last => decide (frame.sequence > last)
      if !dry || !unplayedSince || decide (next - frame.sequence > kMaxRewind) then
        (.late, [], buffer)
      else
        let (result, happened, buffer) := (buffer.rewindTo frame.sequence).emplace frame
        (result, .rewound (next - frame.sequence) :: happened, buffer)
    else buffer.emplace frame

/-- The start of `put`: a frame far ahead of the playout point resets the buffer. -/
def rejoin (sequence : Int) (buffer : JitterBuffer) : List Happening × JitterBuffer :=
  if buffer.next.any fun next => decide (sequence - next > kMaxAhead) then
    ([.reset buffer.frames.values], buffer.reset)
  else ([], buffer)

def put (sequence : Int) (payload : Bytes) (arrivalUs : Int) (buffer : JitterBuffer) :
    PutResult × List Happening × JitterBuffer :=
  let (jumped, buffer) := buffer.rejoin sequence
  let buffer := buffer.recordTransit (arrivalUs - sequence * kFrameUs)
  let (result, happened, buffer) := buffer.place { sequence, payload }
  (result, jumped ++ happened, buffer)

def skipSlot (next : Int) (buffer : JitterBuffer) : JitterBuffer :=
  { buffer with skipped := buffer.skipped + 1, next := some (next + 1) }

def dropFrame (next : Int) (buffer : JitterBuffer) : JitterBuffer :=
  { buffer with
    frames := buffer.frames.erase next
    dropped := buffer.dropped + 1
    popsSinceDrop := 0
    next := some (next + 1) }

/-- The loop of `pop` that passes over slots while playout is too far above the target. -/
def shrink (desired : Int) : Nat → Int → Int → JitterBuffer → List Happening × Int × JitterBuffer
  | 0, next, _, buffer => ([], next, buffer)
  | rounds + 1, next, offset, buffer =>
    if offset > desired + kShrinkAboveUs ∧ !buffer.frames.values.isEmpty then
      match buffer.frames.find next with
      | none =>
        let (passed, ended) :=
          shrink desired rounds (next + 1) (offset - kFrameUs) (buffer.skipSlot next)
        (.skipped next :: passed, ended)
      | some frame =>
        if buffer.popsSinceDrop ≥ kPopsBetweenDrops then
          let (passed, ended) :=
            shrink desired rounds (next + 1) (offset - kFrameUs) (buffer.dropFrame next)
          (.dropped frame :: passed, ended)
        else ([], next, buffer)
    else ([], next, buffer)

/-- As many rounds as the loop can take: each brings the offset a frame closer to the target. -/
def rounds (desired offset : Int) : Nat :=
  ((offset - desired - kShrinkAboveUs) / kFrameUs + 1).toNat

/-- `++pops_since_drop_`. -/
def countPop (buffer : JitterBuffer) : JitterBuffer :=
  { buffer with popsSinceDrop := buffer.popsSinceDrop + 1 }

def playSlot (next : Int) (buffer : JitterBuffer) : JitterBuffer :=
  { buffer with
    lastPlayed := some next
    next := some (next + 1)
    frames := buffer.frames.erase next
    missingInARow := 0 }

def missSlot (next : Int) (buffer : JitterBuffer) : JitterBuffer :=
  { buffer with next := some (next + 1), missingInARow := buffer.missingInARow + 1 }

/-- The end of `pop`: the slot of the playout point is played or found missing. -/
def take (next : Int) (buffer : JitterBuffer) : PopResult × List Happening × JitterBuffer :=
  match buffer.frames.find next with
  | some frame => (.played frame.payload, [.played frame], buffer.playSlot next)
  | none =>
    let buffer := buffer.missSlot next
    if buffer.frames.values.isEmpty ∧ buffer.missingInARow ≥ kMissingBeforeRebuffer then
      (.missing, [.missed next, .reset buffer.frames.values], buffer.reset)
    else (.missing, [.missed next], buffer)

/-- `pop` once the playout point is set. -/
def advance (nowUs next : Int) (buffer : JitterBuffer) :
    PopResult × List Happening × JitterBuffer :=
  let desired := buffer.desiredOffsetUs
  let offset := nowUs - next * kFrameUs
  if offset < desired then
    (.expanded, [], { buffer with expanded := buffer.expanded + 1 }.countPop)
  else
    let (passed, next, buffer) := buffer.shrink desired (rounds desired offset) next offset
    let (result, taken, buffer) := buffer.countPop.take next
    (result, passed ++ taken, buffer)

/-- The playout point is set for the first time since a reset. -/
def startAt (number : Int) (buffer : JitterBuffer) : JitterBuffer :=
  { buffer with next := some number }

def pop (nowUs : Int) (buffer : JitterBuffer) : PopResult × List Happening × JitterBuffer :=
  match buffer.next with
  | some next => buffer.advance nowUs next
  | none =>
    match buffer.frames.values.head? with
    | none => (.buffering, [], buffer)
    | some first =>
      if nowUs - first.sequence * kFrameUs < buffer.desiredOffsetUs then (.buffering, [], buffer)
      else
        let (result, happened, buffer) :=
          (buffer.startAt first.sequence).advance nowUs first.sequence
        (result, .started first.sequence :: happened, buffer)

end JitterBuffer

theorem take_set_concat (values : List Int) (place : Nat) (value : Int)
    (inside : place < values.length) :
    (values.set place value).take (place + 1) = values.take place ++ [value] := by
  rw [take_add_one, take_set_of_le (Nat.le_refl _), List.getElem?_set_self inside]
  rfl

/-! ### Runs of the buffer -/

inductive BufferOp where
  | put (sequence : Int) (payload : Bytes) (arrivalUs : Int)
  | pop (nowUs : Int)
  | reset
  deriving DecidableEq

/-- What a call returns. -/
inductive Returned where
  | put (result : PutResult)
  | pop (result : PopResult)
  | reset
  deriving DecidableEq

namespace JitterBuffer

/-- A call with its result and what it did. -/
def perform (buffer : JitterBuffer) : BufferOp → Returned × List Happening × JitterBuffer
  | .put sequence payload arrivalUs =>
    let (result, rest) := buffer.put sequence payload arrivalUs
    (.put result, rest)
  | .pop nowUs =>
    let (result, rest) := buffer.pop nowUs
    (.pop result, rest)
  | .reset => (.reset, [.reset buffer.frames.values], buffer.reset)

def step (buffer : JitterBuffer) (op : BufferOp) : JitterBuffer := (buffer.perform op).2.2

end JitterBuffer

/-! ### The playout -/

/-- The part of the buffer that decides what is played, with the counters of what is not. -/
structure Playout where
  frames : OrderedMap Frame.sequence := .empty
  next : Option Int := none
  lastPlayed : Option Int := none
  dropped : Nat := 0
  skipped : Nat := 0

def JitterBuffer.playout (buffer : JitterBuffer) : Playout where
  frames := buffer.frames
  next := buffer.next
  lastPlayed := buffer.lastPlayed
  dropped := buffer.dropped
  skipped := buffer.skipped

/-- One thing that happens to the playout, with what it requires. -/
inductive Move : Playout → Happening → Playout → Prop
  | stored {playout : Playout} {frame : Frame}
      (absent : playout.frames.find frame.sequence = none)
      (ahead : ∀ next, playout.next = some next → next ≤ frame.sequence) :
      Move playout (.stored frame) { playout with frames := playout.frames.put frame }
  | rewound {playout : Playout} {next number : Int} (point : playout.next = some next)
      (dry : playout.frames.values = [])
      (unplayed : ∀ last, playout.lastPlayed = some last → last < number) :
      Move playout (.rewound (next - number)) { playout with next := some number }
  | started {playout : Playout} {first : Frame} (idle : playout.next = none)
      (head : playout.frames.values.head? = some first) :
      Move playout (.started first.sequence) { playout with next := some first.sequence }
  | dropped {playout : Playout} {next : Int} {frame : Frame} (point : playout.next = some next)
      (found : playout.frames.find next = some frame) :
      Move playout (.dropped frame)
        { playout with
          frames := playout.frames.erase next
          next := some (next + 1)
          dropped := playout.dropped + 1 }
  | skipped {playout : Playout} {next : Int} (point : playout.next = some next)
      (absent : playout.frames.find next = none) :
      Move playout (.skipped next)
        { playout with next := some (next + 1), skipped := playout.skipped + 1 }
  | played {playout : Playout} {next : Int} {frame : Frame} (point : playout.next = some next)
      (found : playout.frames.find next = some frame) :
      Move playout (.played frame)
        { playout with
          frames := playout.frames.erase next
          next := some (next + 1)
          lastPlayed := some next }
  | missed {playout : Playout} {next : Int} (point : playout.next = some next)
      (absent : playout.frames.find next = none) :
      Move playout (.missed next) { playout with next := some (next + 1) }
  | reset {playout : Playout} :
      Move playout (.reset playout.frames.values)
        { playout with frames := .empty, next := none, lastPlayed := none }

/-- What happens one after the other. -/
inductive Moves : Playout → List Happening → Playout → Prop
  | nil {playout : Playout} : Moves playout [] playout
  | cons {first second third : Playout} {happening : Happening} {rest : List Happening}
      (move : Move first happening second) (moves : Moves second rest third) :
      Moves first (happening :: rest) third

theorem Move.single {first second : Playout} {happening : Happening}
    (move : Move first happening second) : Moves first [happening] second :=
  .cons move .nil

theorem Moves.append {first second third : Playout} {earlier later : List Happening}
    (early : Moves first earlier second) (late : Moves second later third) :
    Moves first (earlier ++ later) third := by
  induction early with
  | nil => exact late
  | cons move _ hypothesis => exact .cons move (hypothesis late)

theorem Moves.keep {allowed : Happening → Prop} {invariant : List Happening → Playout → Prop}
    (kept : ∀ {history first happening second}, invariant history first → allowed happening →
      Move first happening second → invariant (history ++ [happening]) second)
    {history happened : List Happening} {first second : Playout} (holds : invariant history first)
    (every : ∀ happening ∈ happened, allowed happening) (moves : Moves first happened second) :
    invariant (history ++ happened) second := by
  induction moves generalizing history with
  | nil => rwa [append_nil]
  | cons move _ hypothesis =>
    rw [append_cons]
    exact hypothesis (kept holds (every _ mem_cons_self) move)
      fun happening member => every happening (mem_cons_of_mem _ member)

theorem Moves.split {first third : Playout} {earlier later : List Happening}
    (moves : Moves first (earlier ++ later) third) :
    ∃ second, Moves first earlier second ∧ Moves second later third := by
  induction earlier generalizing first with
  | nil => exact ⟨first, .nil, moves⟩
  | cons happening earlier hypothesis =>
    cases moves with
    | cons move moves =>
      obtain ⟨second, early, late⟩ := hypothesis moves
      exact ⟨second, .cons move early, late⟩

/-! ### Every call is a run of the playout -/

namespace JitterBuffer

variable (buffer : JitterBuffer)

theorem emplace_moves (frame : Frame)
    (ahead : ∀ next, buffer.next = some next → next ≤ frame.sequence) :
    Moves buffer.playout (buffer.emplace frame).2.1 (buffer.emplace frame).2.2.playout := by
  unfold emplace
  split
  · exact .nil
  next absent => exact (Move.stored absent ahead).single

theorem place_moves (frame : Frame) :
    Moves buffer.playout (buffer.place frame).2.1 (buffer.place frame).2.2.playout := by
  unfold place
  split
  next idle =>
    exact buffer.emplace_moves frame fun next point => absurd (idle.symm.trans point) nofun
  next next point =>
    split
    next =>
      dsimp only
      split
      · exact .nil
      next kept =>
        -- The frame is late, and playout steps back to it.
        simp only [Bool.or_eq_true, Bool.not_eq_true', decide_eq_true_eq, not_or, Bool.not_eq_false,
          List.isEmpty_iff, Option.all_eq_true] at kept
        obtain ⟨⟨dry, unplayed⟩, -⟩ := kept
        exact .cons (Move.rewound point dry fun last played => unplayed last played)
          ((buffer.rewindTo frame.sequence).emplace_moves frame fun point' same =>
            le_of_eq (Option.some.inj same).symm)
    next ahead =>
      refine buffer.emplace_moves frame fun point' same => ?_
      rw [point] at same
      rw [← Option.some.inj same]
      exact not_lt.mp ahead

theorem rejoin_moves (sequence : Int) :
    Moves buffer.playout (buffer.rejoin sequence).1 (buffer.rejoin sequence).2.playout := by
  unfold rejoin
  split
  · exact Move.reset.single
  · exact .nil

theorem put_moves (sequence : Int) (payload : Bytes) (arrivalUs : Int) :
    Moves buffer.playout (buffer.put sequence payload arrivalUs).2.1
      (buffer.put sequence payload arrivalUs).2.2.playout :=
  (buffer.rejoin_moves sequence).append
    (((buffer.rejoin sequence).2.recordTransit (arrivalUs - sequence * kFrameUs)).place_moves
      { sequence, payload })

theorem shrink_moves (desired : Int) (rounds : Nat) (next offset : Int)
    (point : buffer.next = some next) :
    Moves buffer.playout (buffer.shrink desired rounds next offset).1
        (buffer.shrink desired rounds next offset).2.2.playout ∧
      (buffer.shrink desired rounds next offset).2.2.next =
        some (buffer.shrink desired rounds next offset).2.1 := by
  induction rounds generalizing buffer next offset with
  | zero => exact ⟨.nil, point⟩
  | succ rounds hypothesis =>
    unfold shrink
    split
    · split
      next absent =>
        obtain ⟨moves, ends⟩ :=
          hypothesis (buffer.skipSlot next) (next + 1) (offset - kFrameUs) rfl
        exact ⟨.cons (Move.skipped point absent) moves, ends⟩
      next frame found =>
        split
        · obtain ⟨moves, ends⟩ :=
            hypothesis (buffer.dropFrame next) (next + 1) (offset - kFrameUs) rfl
          exact ⟨.cons (Move.dropped point found) moves, ends⟩
        · exact ⟨.nil, point⟩
    · exact ⟨.nil, point⟩

theorem take_moves (next : Int) (point : buffer.next = some next) :
    Moves buffer.playout (buffer.take next).2.1 (buffer.take next).2.2.playout := by
  unfold take
  split
  next frame found => exact (Move.played point found).single
  next absent =>
    dsimp only
    split
    · exact .cons (Move.missed point absent) Move.reset.single
    · exact (Move.missed point absent).single

theorem advance_moves (nowUs next : Int) (point : buffer.next = some next) :
    Moves buffer.playout (buffer.advance nowUs next).2.1
      (buffer.advance nowUs next).2.2.playout := by
  unfold advance
  dsimp only
  split
  · exact .nil
  · obtain ⟨moves, ends⟩ := buffer.shrink_moves buffer.desiredOffsetUs
      (rounds buffer.desiredOffsetUs (nowUs - next * kFrameUs)) next (nowUs - next * kFrameUs) point
    exact moves.append (take_moves (countPop _) _ ends)

theorem pop_moves (nowUs : Int) :
    Moves buffer.playout (buffer.pop nowUs).2.1 (buffer.pop nowUs).2.2.playout := by
  unfold pop
  split
  next next point => exact buffer.advance_moves nowUs next point
  next idle =>
    split
    · exact .nil
    next first head =>
      split
      · exact .nil
      · exact .cons (Move.started idle head)
          ((buffer.startAt first.sequence).advance_moves nowUs first.sequence rfl)

theorem perform_moves (op : BufferOp) :
    Moves buffer.playout (buffer.perform op).2.1 (buffer.step op).playout := by
  cases op with
  | put sequence payload arrivalUs => exact buffer.put_moves sequence payload arrivalUs
  | pop nowUs => exact buffer.pop_moves nowUs
  | reset => exact Move.reset.single

end JitterBuffer

end KetPhone.Media
