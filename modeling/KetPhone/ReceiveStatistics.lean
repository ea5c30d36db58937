/-
This file models the receiver statistics of `media/rtp.cpp` and proves that they
unwrap the 16-bit sequence numbers of a whole stream. Every number is placed next
to the highest one seen so far: the upper bits are those of the highest number,
and at most one of two corrections by 65536 is made. The distance between a true
number and the highest true number is at most `kMaxDropout`, far less than half of
65536, so the place found is the right one, and no packet is ever taken for a
restart of the sender.

Extended numbers and counters are unbounded integers here. The jitter is kept as
the code computes it, and nothing reads it but the statistics of a call.
-/

import KetPhone.Run
import Mathlib.Algebra.Order.Group.Abs
import Mathlib.Algebra.Order.Group.Int
import Mathlib.Order.Interval.Finset.Basic
import Mathlib.Data.Int.Interval
import Mathlib.Order.ConditionallyCompleteLattice.Basic
import Mathlib.Data.Int.ConditionallyCompleteOrder
import Mathlib.Tactic.Common

namespace KetPhone.Media

open List

/-! ### The code -/

/-- A packet further away than this from the highest number restarts the count. -/
def kMaxDropout : Int := 3000

structure ReceiveStatistics where
  started : Bool := false
  base : Int := 0
  highest : Int := 0
  received : Nat := 0
  lastTransit : UInt32 := 0
  jitter : Float := 0

namespace ReceiveStatistics

/-- The sequence number in the 65536-wide window closest to the highest seen so far. -/
def place (highest : Int) (sequence : UInt16) : Int :=
  -- `highest & ~0xffff`
  let cycle := highest - highest % 65536
  let extended := cycle + sequence.toNat
  let extended := if extended - highest > 32768 then extended - 65536 else extended
  if highest - extended > 32768 then extended + 65536 else extended

/-- The part of `on_packet` that counts, with the extended number it returns. -/
def track (sequence : UInt16) (statistics : ReceiveStatistics) : Int × ReceiveStatistics :=
  if !statistics.started then
    let extended : Int := sequence.toNat
    (extended, { statistics with started := true, base := extended, highest := extended })
  else
    let extended := place statistics.highest sequence
    if |extended - statistics.highest| > kMaxDropout then
      -- The sender restarted its sequence.
      (extended, { statistics with base := extended, highest := extended, received := 0 })
    else if extended > statistics.highest then
      (extended, { statistics with highest := extended })
    else (extended, statistics)

/-- The part of `on_packet` that measures the jitter, once the packet has been counted. -/
def measure (timestamp arrival : UInt32) (statistics : ReceiveStatistics) : ReceiveStatistics :=
  let transit := arrival - timestamp
  let jitter :=
    if statistics.received > 1 then
      let delta := (transit - statistics.lastTransit).toInt32.toInt
      statistics.jitter + ((Float.ofInt delta).abs - statistics.jitter) / 16.0
    else statistics.jitter
  { statistics with jitter, lastTransit := transit }

def onPacket (sequence : UInt16) (timestamp arrival : UInt32) (statistics : ReceiveStatistics) :
    Int × ReceiveStatistics :=
  let (extended, tracked) := statistics.track sequence
  (extended, { tracked with received := tracked.received + 1 }.measure timestamp arrival)

def lost (statistics : ReceiveStatistics) : Nat :=
  if !statistics.started then 0
  else
    let expected := statistics.highest - statistics.base + 1
    if expected > statistics.received then (expected - statistics.received).toNat else 0

end ReceiveStatistics

/-! ### A stream -/

/-- A packet of a stream with its true number, of which only 16 bits are sent. -/
structure Arrival where
  number : Int
  timestamp : UInt32 := 0
  arrival : UInt32 := 0

def Arrival.sequence (packet : Arrival) : UInt16 := UInt16.ofNat (packet.number % 65536).toNat

/-- Each number is at most `kMaxDropout` away from the highest one before it. -/
def StaysNear (highest : Int) : List Int → Prop
  | [] => True
  | number :: numbers =>
    |number - highest| ≤ kMaxDropout ∧ StaysNear (max highest number) numbers

instance decidableStaysNear : ∀ highest numbers, Decidable (StaysNear highest numbers)
  | _, [] => inferInstanceAs (Decidable True)
  | highest, number :: numbers =>
    have := decidableStaysNear (max highest number) numbers
    inferInstanceAs (Decidable (_ ∧ _))

namespace ReceiveStatistics

/-- The statistics after a packet. -/
def hear (statistics : ReceiveStatistics) (packet : Arrival) : ReceiveStatistics :=
  (statistics.onPacket packet.sequence packet.timestamp packet.arrival).2

/-- What `on_packet` returns for each packet of a stream. -/
def returned (statistics : ReceiveStatistics) : List Arrival → List Int
  | [] => []
  | packet :: packets =>
    (statistics.onPacket packet.sequence packet.timestamp packet.arrival).1 ::
      (statistics.hear packet).returned packets

end ReceiveStatistics

/-- The number that stands for a true number in a stream that starts with `first`. -/
def extendedFrom (first number : Int) : Int := number - first + first % 65536

theorem sequence_toNat (packet : Arrival) :
    (packet.sequence.toNat : Int) = packet.number % 65536 := by
  have low := Int.emod_nonneg packet.number (show (65536 : Int) ≠ 0 by decide)
  have high := Int.emod_lt_of_pos packet.number (show (0 : Int) < 65536 by decide)
  unfold Arrival.sequence
  rw [UInt16.toNat_ofNat']
  omega

theorem place_eq (highest number : Int) (sequence : UInt16)
    (bits : (sequence.toNat : Int) = number % 65536) (near : |number - highest| ≤ kMaxDropout) :
    ReceiveStatistics.place highest sequence = number := by
  unfold kMaxDropout at near
  rw [abs_le] at near
  unfold ReceiveStatistics.place
  rw [bits]
  dsimp only
  split <;> split <;> omega

/-! ### The invariant -/

/-- The statistics of a stream that starts with `first` and has reached `top`. -/
structure Follows (first top : Int) (count : Nat) (statistics : ReceiveStatistics) : Prop where
  started : statistics.started = true
  base : statistics.base = extendedFrom first first
  highest : statistics.highest = extendedFrom first top
  received : statistics.received = count

variable {first top : Int} {count : Nat} {statistics : ReceiveStatistics}

theorem onPacket_first (packet : Arrival) :
    (ReceiveStatistics.onPacket packet.sequence packet.timestamp packet.arrival {}).1 =
        extendedFrom packet.number packet.number ∧
      Follows packet.number packet.number 1 (ReceiveStatistics.hear {} packet) := by
  have start : (packet.sequence.toNat : Int) = extendedFrom packet.number packet.number := by
    rw [sequence_toNat]
    unfold extendedFrom
    omega
  exact ⟨start, rfl, start, start, rfl⟩

/-- A packet near the highest number is placed right and moves nothing but the top and the
count. -/
theorem Follows.onPacket (follows : Follows first top count statistics) (packet : Arrival)
    (near : |packet.number - top| ≤ kMaxDropout) :
    (statistics.onPacket packet.sequence packet.timestamp packet.arrival).1 =
        extendedFrom first packet.number ∧
      Follows first (max top packet.number) (count + 1) (statistics.hear packet) := by
  -- The extended numbers differ from the true ones by a multiple of 65536.
  have shifted : extendedFrom first packet.number - statistics.highest = packet.number - top := by
    rw [follows.highest]
    unfold extendedFrom
    omega
  have bits : (packet.sequence.toNat : Int) = extendedFrom first packet.number % 65536 := by
    rw [sequence_toNat]
    unfold extendedFrom
    omega
  have placed := place_eq statistics.highest (extendedFrom first packet.number) packet.sequence bits
    (by rw [shifted]; exact near)
  have tracked : statistics.track packet.sequence =
      (extendedFrom first packet.number,
        { statistics with highest := extendedFrom first (max top packet.number) }) := by
    unfold ReceiveStatistics.track
    rw [follows.started]
    dsimp only [Bool.not_true, Bool.false_eq_true, if_false]
    rw [placed, if_neg (by simp), if_neg (by rw [shifted]; exact not_lt.mpr near)]
    have highest := follows.highest
    unfold extendedFrom at highest shifted ⊢
    split
    · rw [max_eq_right (by omega)]
    · rw [max_eq_left (by omega), ← highest, ← follows.started]
  unfold ReceiveStatistics.hear ReceiveStatistics.onPacket
  rw [tracked]
  exact ⟨rfl, follows.started, follows.base, rfl, congrArg (· + 1) follows.received⟩

theorem Follows.stream (follows : Follows first top count statistics) (packets : List Arrival)
    (near : StaysNear top (packets.map Arrival.number)) :
    statistics.returned packets = packets.map (fun packet => extendedFrom first packet.number) ∧
      Follows first ((packets.map Arrival.number).foldl max top) (count + packets.length)
        (run ReceiveStatistics.hear statistics packets) := by
  induction packets generalizing top count statistics with
  | nil => exact ⟨rfl, follows⟩
  | cons packet packets hypothesis =>
    obtain ⟨placed, followed⟩ := follows.onPacket packet near.1
    obtain ⟨rest, ends⟩ := hypothesis followed near.2
    constructor
    · rw [ReceiveStatistics.returned, placed, rest, map_cons]
    · rw [run_cons, length_cons, Nat.add_comm packets.length 1, ← Nat.add_assoc]
      exact ends

/-! ### Packets lost -/

theorem card_missing (low high : Int) (numbers : List Int) (distinct : numbers.Nodup)
    (within : ∀ number ∈ numbers, low ≤ number ∧ number ≤ high) :
    ((Finset.Icc low high).filter (· ∉ numbers)).card =
      (high + 1 - low).toNat - numbers.length := by
  have same : (Finset.Icc low high).filter (· ∉ numbers) =
      Finset.Icc low high \ numbers.toFinset := by
    ext number
    simp
  have inside : numbers.toFinset ⊆ Finset.Icc low high := by
    intro number member
    rw [Finset.mem_Icc]
    exact within number (mem_toFinset.mp member)
  rw [same, Finset.card_sdiff_of_subset inside, Int.card_Icc, toFinset_card_of_nodup distinct]

theorem le_foldl_max (numbers : List Int) (start : Int) :
    start ≤ numbers.foldl max start ∧ ∀ number ∈ numbers, number ≤ numbers.foldl max start := by
  induction numbers generalizing start with
  | nil => exact ⟨le_refl start, fun _ member => absurd member not_mem_nil⟩
  | cons number numbers hypothesis =>
    obtain ⟨above, members⟩ := hypothesis (max start number)
    refine ⟨(le_max_left start number).trans above, fun other member => ?_⟩
    rcases mem_cons.mp member with rfl | later
    · exact (le_max_right start other).trans above
    · exact members other later

theorem Follows.lost (top : Int) (numbers : List Int)
    (follows : Follows first top numbers.length statistics) (distinct : numbers.Nodup)
    (within : ∀ number ∈ numbers, first ≤ number ∧ number ≤ top) :
    statistics.lost = ((Finset.Icc first top).filter (· ∉ numbers)).card := by
  have range : statistics.highest - statistics.base + 1 = top + 1 - first := by
    rw [follows.highest, follows.base]
    unfold extendedFrom
    omega
  rw [card_missing first top numbers distinct within]
  unfold ReceiveStatistics.lost
  rw [follows.started, range, follows.received]
  simp only [Bool.not_true, Bool.false_eq_true, if_false]
  split <;> omega

/-- The extended number of every packet is its true number, up to a multiple of 65536 that is the
same for the whole stream; and when no number comes twice and none from before the first, `lost`
counts the numbers that have not come. -/
theorem returned_eq_extended (packet : Arrival) (packets : List Arrival)
    (near : StaysNear packet.number (packets.map Arrival.number)) :
    ReceiveStatistics.returned {} (packet :: packets) =
        (packet :: packets).map (fun heard =>
          heard.number - packet.number + packet.number % 65536) ∧
      (((packet :: packets).map Arrival.number).Nodup →
        (∀ heard ∈ packets, packet.number ≤ heard.number) →
        (run ReceiveStatistics.hear {} (packet :: packets)).lost =
          ((Finset.Icc packet.number ((packets.map Arrival.number).foldl max packet.number)).filter
            (· ∉ (packet :: packets).map Arrival.number)).card) := by
  obtain ⟨placed, followed⟩ := onPacket_first packet
  obtain ⟨rest, ends⟩ := followed.stream packets near
  constructor
  · rw [ReceiveStatistics.returned, placed, rest]
    rfl
  · intro distinct above
    obtain ⟨start, members⟩ := le_foldl_max (packets.map Arrival.number) packet.number
    refine Follows.lost _ ((packet :: packets).map Arrival.number) ?_ distinct ?_
    · rw [length_map, length_cons, Nat.add_comm]
      exact ends
    · intro number member
      rcases mem_cons.mp member with rfl | later
      · exact ⟨le_refl _, start⟩
      · obtain ⟨heard, inside, rfl⟩ := mem_map.mp later
        exact ⟨above heard inside, members _ later⟩

/-- A stream that wraps, with one number lost and two swapped. -/
def wrappingStream : List Arrival :=
  [{ number := 65535 }, { number := 65537 }, { number := 65536 }, { number := 65539 }]

theorem wrappingStream_extended :
    ReceiveStatistics.returned {} ({ number := 65534 } :: wrappingStream) =
        [65534, 65535, 65537, 65536, 65539] ∧
      (run ReceiveStatistics.hear {} ({ number := 65534 } :: wrappingStream)).lost = 1 := by
  obtain ⟨extended, missing⟩ := returned_eq_extended { number := 65534 } wrappingStream
    (by decide +kernel)
  exact ⟨extended, (missing (by decide +kernel) (by decide +kernel)).trans (by decide +kernel)⟩

end KetPhone.Media
