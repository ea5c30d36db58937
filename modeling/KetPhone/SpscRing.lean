/-
This file models `media/spsc_ring.hpp` and proves that the ring is a bounded FIFO
under any interleaving of its two threads. A push loads both indices, copies its
values slot by slot and stores the write index; a pop does the same on the other
side; a discard loads the write index and stores it as the read index. Each of
these is a step of its own, and a schedule says whose turn it is.

The indices are `size_t` and wrap. In the proof they stand for two numbers that do
not: how many values have been accepted and how many have been taken. The values
in between lie in the slots from the read index on, followed by those that a
running push has already copied. A push works from an old read index, so it can
only think that less is free than there is, and a pop from an old write index
thinks that less can be read; neither oversteps.
-/

import KetPhone.Run
import Mathlib.Data.Nat.Basic
import Mathlib.Tactic.Common

namespace KetPhone.Media

open List

variable {α : Type}

/-! ### The shared memory -/

/-- The memory that both threads see. -/
structure SpscRing (α : Type) where
  mask : UInt64
  slots : UInt64 → α
  write : UInt64 := 0
  read : UInt64 := 0

namespace SpscRing

/-- The loop of the constructor. -/
def capacityFrom : Nat → UInt64 → UInt64 → UInt64
  | 0, _, capacity => capacity
  | rounds + 1, wanted, capacity =>
    if capacity < wanted then capacityFrom rounds wanted (capacity <<< 1) else capacity

/-- The constructor, with what the slots hold at first. -/
def create (slots : UInt64 → α) (minimumCapacity : UInt64) : SpscRing α :=
  { mask := capacityFrom 64 (minimumCapacity + 1) 1 - 1, slots }

/-- The slot at an index. -/
def slotAt (ring : SpscRing α) (index : UInt64) : UInt64 := index &&& ring.mask

/-- `size`. -/
def size (ring : SpscRing α) : UInt64 := (ring.write - ring.read) &&& ring.mask

/-- What stands in the slots between two indices. -/
def between (ring : SpscRing α) (first last : UInt64) : List α :=
  (List.range ((last - first) &&& ring.mask).toNat).map fun place =>
    ring.slots (ring.slotAt (first + UInt64.ofNat place))

/-- The values that can be read. -/
def held (ring : SpscRing α) : List α := ring.between ring.read ring.write

/-- Copies a value to the slot at an index. -/
def copy (index : UInt64) (value : α) (ring : SpscRing α) : SpscRing α :=
  { ring with
    slots := fun slot => if slot = ring.slotAt index then value else ring.slots slot }

/-- Copies values to the slots from an index on. -/
def copyAll (index : UInt64) : List α → SpscRing α → SpscRing α
  | [], ring => ring
  | value :: values, ring => copyAll (index + 1) values (ring.copy index value)

/-- As many values as `push` writes at these indices. -/
def fitting (values : List α) (write read : UInt64) (ring : SpscRing α) : List α :=
  let space := ring.mask - ((write - read) &&& ring.mask)
  values.take (min values.length space.toNat)

/-- As many values as `pop` reads at these indices. -/
def readable (count : Nat) (write read : UInt64) (ring : SpscRing α) : Nat :=
  min count ((write - read) &&& ring.mask).toNat

/-- The values that `push` writes; it returns how many there are. -/
def push (values : List α) (ring : SpscRing α) : List α × SpscRing α :=
  let accepted := ring.fitting values ring.write ring.read
  let copied := ring.copyAll ring.write accepted
  (accepted, { copied with write := ring.write + UInt64.ofNat accepted.length })

/-- The values that `pop` reads; it returns how many there are. -/
def pop (count : Nat) (ring : SpscRing α) : List α × SpscRing α :=
  let count := ring.readable count ring.write ring.read
  ((List.range count).map fun place =>
      ring.slots (ring.slotAt (ring.read + UInt64.ofNat place)),
    { ring with read := ring.read + UInt64.ofNat count })

def discard (ring : SpscRing α) : SpscRing α := { ring with read := ring.write }

end SpscRing

/-! ### The threads -/

/-- Where the producer stands in a push. -/
inductive Producer (α : Type) where
  | idle
  | called (values : List α)
  /-- The write index has been loaded. -/
  | loaded (values : List α) (write : UInt64)
  /-- The values that fit, and how many of them have been copied. -/
  | copying (accepted : List α) (write : UInt64) (copied : Nat)

/-- Where the consumer stands in a pop or a discard. -/
inductive Consumer (α : Type) where
  | idle
  | called (count : Nat)
  /-- The read index has been loaded. -/
  | loaded (count : Nat) (read : UInt64)
  /-- How many values are read, and those that have been copied. -/
  | copying (count : Nat) (read : UInt64) (copied : List α)
  | discards
  /-- The write index has been loaded. -/
  | discarding (write : UInt64)

/-- A call that has returned. -/
inductive Outcome (α : Type) where
  /-- With the values that were accepted, as many as `push` returns. -/
  | pushed (accepted : List α)
  | popped (values : List α)
  | discarded (skipped : List α)
  deriving DecidableEq

/-- The ring with its two threads and the calls that have returned. -/
structure RingMachine (α : Type) where
  ring : SpscRing α
  producer : Producer α := .idle
  consumer : Consumer α := .idle
  log : List (Outcome α) := []

/-- Whose turn it is. A thread that is in a call takes no other. -/
inductive Turn (α : Type) where
  | push (values : List α)
  | producer
  | pop (count : Nat)
  | discard
  | consumer

namespace RingMachine

/-- The next step of a push. -/
def stepProducer (machine : RingMachine α) : RingMachine α :=
  match machine.producer with
  | .idle => machine
  | .called values => { machine with producer := .loaded values machine.ring.write }
  | .loaded values write =>
    let accepted := machine.ring.fitting values write machine.ring.read
    { machine with producer := .copying accepted write 0 }
  | .copying accepted write copied =>
    match accepted[copied]? with
    | some value =>
      { machine with
        ring := machine.ring.copy (write + UInt64.ofNat copied) value
        producer := .copying accepted write (copied + 1) }
    | none =>
      { machine with
        ring := { machine.ring with write := write + UInt64.ofNat accepted.length }
        producer := .idle
        log := machine.log ++ [.pushed accepted] }

/-- The next step of a pop or a discard. -/
def stepConsumer (machine : RingMachine α) : RingMachine α :=
  match machine.consumer with
  | .idle => machine
  | .called count => { machine with consumer := .loaded count machine.ring.read }
  | .loaded count read =>
    let count := machine.ring.readable count machine.ring.write read
    { machine with consumer := .copying count read [] }
  | .copying count read copied =>
    if copied.length < count then
      let value :=
        machine.ring.slots (machine.ring.slotAt (read + UInt64.ofNat copied.length))
      { machine with consumer := .copying count read (copied ++ [value]) }
    else
      { machine with
        ring := { machine.ring with read := read + UInt64.ofNat count }
        consumer := .idle
        log := machine.log ++ [.popped copied] }
  | .discards => { machine with consumer := .discarding machine.ring.write }
  | .discarding write =>
    { machine with
      ring := { machine.ring with read := write }
      consumer := .idle
      log := machine.log ++ [.discarded (machine.ring.between machine.ring.read write)] }

def step (machine : RingMachine α) : Turn α → RingMachine α
  | .push values =>
    match machine.producer with
    | .idle => { machine with producer := .called values }
    | _ => machine
  | .producer => machine.stepProducer
  | .pop count =>
    match machine.consumer with
    | .idle => { machine with consumer := .called count }
    | _ => machine
  | .discard =>
    match machine.consumer with
    | .idle => { machine with consumer := .discards }
    | _ => machine
  | .consumer => machine.stepConsumer

/-- The slot that the producer writes next, when its next step is a copy. -/
def nextWrite (machine : RingMachine α) : Option UInt64 :=
  match machine.producer with
  | .copying accepted write copied =>
    if copied < accepted.length then some (machine.ring.slotAt (write + UInt64.ofNat copied))
    else none
  | _ => none

end RingMachine

/-- The values that pushes accepted. -/
def accepted (log : List (Outcome α)) : List α :=
  log.flatMap fun
    | .pushed values => values
    | _ => []

/-- The values that pops returned and discards skipped. -/
def taken (log : List (Outcome α)) : List α :=
  log.flatMap fun
    | .pushed _ => []
    | .popped values => values
    | .discarded skipped => skipped

/-! ### Indices -/

/-- A ring of `2 ^ bits` slots. -/
def SpscRing.Masks (bits : Fin 64) (ring : SpscRing α) : Prop :=
  ring.mask.toNat = 2 ^ bits.val - 1

theorem toNat_and_mask {bits : Fin 64} {mask : UInt64} (masks : mask.toNat = 2 ^ bits.val - 1)
    (number : Nat) : (UInt64.ofNat number &&& mask).toNat = number % 2 ^ bits.val := by
  rw [UInt64.toNat_and, masks, Nat.and_two_pow_sub_one_eq_mod, UInt64.toNat_ofNat']
  exact Nat.mod_mod_of_dvd number (Nat.pow_dvd_pow 2 (Nat.le_of_lt bits.isLt))

theorem toNat_distance {bits : Fin 64} {mask : UInt64} (masks : mask.toNat = 2 ^ bits.val - 1)
    {first distance : Nat} (close : distance ≤ 2 ^ bits.val - 1) :
    ((UInt64.ofNat (first + distance) - UInt64.ofNat first) &&& mask).toNat = distance := by
  have positive : 0 < 2 ^ bits.val := Nat.two_pow_pos _
  rw [← UInt64.ofNat_sub (Nat.le_add_right _ _), Nat.add_sub_cancel_left, toNat_and_mask masks]
  exact Nat.mod_eq_of_lt (by omega)

namespace SpscRing

/-- Values lie in the slots from a number on. -/
def Lies (ring : SpscRing α) (first : Nat) (values : List α) : Prop :=
  ∀ place value, values[place]? = some value →
    ring.slots (ring.slotAt (UInt64.ofNat (first + place))) = value

variable {ring : SpscRing α} {first : Nat} {values : List α} {bits : Fin 64}

theorem slotAt_ne (masks : ring.Masks bits) {place other : Nat} (before : place < other)
    (close : other < 2 ^ bits.val) :
    ring.slotAt (UInt64.ofNat (first + place)) ≠ ring.slotAt (UInt64.ofNat (first + other)) := by
  intro same
  have numbers := congrArg UInt64.toNat same
  unfold slotAt at numbers
  rw [toNat_and_mask masks, toNat_and_mask masks] at numbers
  have divides := Nat.sub_mod_eq_zero_of_mod_eq numbers.symm
  rw [Nat.add_sub_add_left] at divides
  have small := Nat.le_of_dvd (by omega) (Nat.dvd_of_mod_eq_zero divides)
  omega

theorem Lies.take (lies : ring.Lies first values) (count : Nat) :
    ring.Lies first (values.take count) := by
  intro place value found
  rw [List.getElem?_take] at found
  split at found
  · exact lies place value found
  · cases found

theorem Lies.drop (lies : ring.Lies first values) (count : Nat) :
    ring.Lies (first + count) (values.drop count) := by
  intro place value found
  rw [List.getElem?_drop] at found
  rw [Nat.add_assoc]
  exact lies (count + place) value found

theorem Lies.copy (masks : ring.Masks bits) (lies : ring.Lies first values)
    (close : values.length < 2 ^ bits.val) (value : α) :
    (ring.copy (UInt64.ofNat (first + values.length)) value).Lies first (values ++ [value]) := by
  intro place other found
  show (if ring.slotAt (UInt64.ofNat (first + place)) =
    ring.slotAt (UInt64.ofNat (first + values.length)) then value else _) = other
  rcases Nat.lt_or_ge place values.length with before | behind
  · rw [List.getElem?_append_left before] at found
    rw [if_neg (slotAt_ne masks before close)]
    exact lies place other found
  · rw [List.getElem?_append_right behind] at found
    obtain ⟨distance, rfl⟩ := Nat.exists_eq_add_of_le behind
    cases distance with
    | zero =>
      rw [Nat.add_zero, Nat.sub_self] at found
      rw [Nat.add_zero, if_pos rfl]
      exact Option.some.inj found
    | succ more =>
      rw [Nat.add_sub_cancel_left] at found
      cases found

theorem Lies.between (masks : ring.Masks bits) (lies : ring.Lies first values) {count : Nat}
    (inside : count ≤ values.length) (close : count ≤ 2 ^ bits.val - 1) :
    ring.between (UInt64.ofNat first) (UInt64.ofNat (first + count)) = values.take count := by
  unfold SpscRing.between
  rw [toNat_distance masks close]
  refine ext_getElem? fun place => ?_
  rw [List.getElem?_map, List.getElem?_take]
  rcases Nat.lt_or_ge place count with before | behind
  · have found := List.getElem?_eq_getElem (Nat.lt_of_lt_of_le before inside)
    rw [List.getElem?_range before, if_pos before, found]
    refine congrArg some ?_
    dsimp only
    rw [← UInt64.ofNat_add, lies place _ found]
  · rw [List.getElem?_eq_none (by simpa using behind), if_neg (Nat.not_lt.mpr behind)]
    rfl

end SpscRing

/-! ### The invariant -/

/-- The values that a running push has copied. -/
def Producer.pending : Producer α → List α
  | .copying accepted _ copied => accepted.take copied
  | _ => []

/-- The values that a running push will have copied. -/
def Producer.claimed : Producer α → List α
  | .copying accepted _ _ => accepted
  | _ => []

/-- The producer alone moves the write index. -/
def Producer.Knows (write : UInt64) : Producer α → Prop
  | .loaded _ own | .copying _ own _ => own = write
  | _ => True

/-- The consumer alone moves the read index. It may read a part of what is held. -/
def Consumer.Knows (read : UInt64) (held : List α) : Consumer α → Prop
  | .loaded _ own => own = read
  | .copying count own copied =>
    own = read ∧ count ≤ held.length ∧ copied.length ≤ count ∧ copied = held.take copied.length
  | .discarding write => ∃ count ≤ held.length, write = read + UInt64.ofNat count
  | _ => True

theorem Consumer.Knows.mono {consumer : Consumer α} {read : UInt64} {held more : List α}
    (knows : consumer.Knows read held) (longer : held <+: more) : consumer.Knows read more := by
  obtain ⟨rest, rfl⟩ := longer
  cases consumer with
  | idle | called | loaded | discards => exact knows
  | copying count own copied =>
    obtain ⟨own, inside, few, same⟩ := knows
    refine ⟨own, ?_, few, ?_⟩
    · rw [length_append]
      omega
    · rwa [take_append_of_le_length (Nat.le_trans few inside)]
  | discarding write =>
    obtain ⟨count, inside, same⟩ := knows
    refine ⟨count, ?_, same⟩
    rw [length_append]
    omega

/-- The ring holds these values, and both threads know their part of it. -/
structure RingMachine.Holds (bits : Fin 64) (machine : RingMachine α) (held : List α) : Prop where
  masks : machine.ring.Masks bits
  fifo : accepted machine.log = taken machine.log ++ held
  read : machine.ring.read = UInt64.ofNat (taken machine.log).length
  write : machine.ring.write = UInt64.ofNat (accepted machine.log).length
  lies : machine.ring.Lies (taken machine.log).length (held ++ machine.producer.pending)
  room : held.length + machine.producer.claimed.length ≤ 2 ^ bits.val - 1
  producer : machine.producer.Knows machine.ring.write
  consumer : machine.consumer.Knows machine.ring.read held

namespace RingMachine

variable {bits : Fin 64} {machine : RingMachine α} {held : List α}

theorem accepted_concat (log : List (Outcome α)) (outcome : Outcome α) :
    accepted (log ++ [outcome]) = accepted log ++ accepted [outcome] :=
  flatMap_append

theorem taken_concat (log : List (Outcome α)) (outcome : Outcome α) :
    taken (log ++ [outcome]) = taken log ++ taken [outcome] :=
  flatMap_append

theorem Holds.withProducer (holds : machine.Holds bits held) {producer : Producer α}
    (pending : producer.pending = [])
    (room : held.length + producer.claimed.length ≤ 2 ^ bits.val - 1)
    (knows : producer.Knows machine.ring.write) (idle : machine.producer.pending = []) :
    { machine with producer }.Holds bits held := by
  refine { holds with lies := ?_, room := room, producer := knows }
  have lies := holds.lies
  rw [idle] at lies
  show machine.ring.Lies _ (held ++ producer.pending)
  rwa [pending]

theorem Holds.withConsumer (holds : machine.Holds bits held) {consumer : Consumer α}
    (knows : consumer.Knows machine.ring.read held) :
    { machine with consumer }.Holds bits held :=
  { holds with consumer := knows }

theorem Holds.write_eq (holds : machine.Holds bits held) :
    machine.ring.write = UInt64.ofNat ((taken machine.log).length + held.length) := by
  rw [holds.write, holds.fifo, length_append]

theorem Holds.space (holds : machine.Holds bits held) :
    (machine.ring.mask - ((machine.ring.write - machine.ring.read) &&& machine.ring.mask)).toNat =
      2 ^ bits.val - 1 - held.length := by
  have close : held.length ≤ 2 ^ bits.val - 1 := Nat.le_trans (Nat.le_add_right _ _) holds.room
  have distance := @toNat_distance bits _ holds.masks (taken machine.log).length _ close
  rw [holds.write_eq, holds.read, UInt64.toNat_sub_of_le, distance, holds.masks]
  rw [UInt64.le_iff_toNat_le, distance, holds.masks]
  exact close

theorem Holds.stepProducer (holds : machine.Holds bits held) :
    ∃ after, machine.stepProducer.Holds bits after := by
  have knows := holds.producer
  have room := holds.room
  have lies := holds.lies
  unfold RingMachine.stepProducer
  cases running : machine.producer with
  | idle => exact ⟨held, holds⟩
  | called values =>
    refine ⟨held, holds.withProducer rfl ?_ rfl (by rw [running]; rfl)⟩
    exact Nat.le_trans (Nat.le_add_right _ _) room
  | loaded values write =>
    rw [running] at knows
    obtain rfl : write = machine.ring.write := knows
    refine ⟨held, holds.withProducer rfl ?_ rfl (by rw [running]; rfl)⟩
    show held.length + (values.take _).length ≤ _
    have close : held.length ≤ 2 ^ bits.val - 1 := Nat.le_trans (Nat.le_add_right _ _) room
    rw [length_take, holds.space]
    omega
  | copying claimed write copied =>
    rw [running] at knows room lies
    obtain rfl : write = machine.ring.write := knows
    have length := congrArg List.length holds.fifo
    rw [length_append] at length
    dsimp only
    split
    next value found =>
      -- One more value lies behind those copied before.
      have inside := (List.getElem?_eq_some_iff.mp found).1
      have more : claimed.take (copied + 1) = claimed.take copied ++ [value] := by
        rw [take_add_one, found]
        rfl
      have copiedLength : (claimed.take copied).length = copied := by
        rw [length_take]
        omega
      have positive : 0 < 2 ^ bits.val := Nat.two_pow_pos _
      change held.length + claimed.length ≤ _ at room
      have placed := SpscRing.Lies.copy holds.masks lies
        (by rw [length_append]; change _ + (claimed.take copied).length < _; omega) value
      refine ⟨held, { holds with lies := ?_, room := room, producer := rfl }⟩
      show SpscRing.Lies _ _ (held ++ claimed.take (copied + 1))
      rw [more, ← append_assoc]
      rw [length_append] at placed
      change (machine.ring.copy (UInt64.ofNat (_ + (held.length + (claimed.take copied).length)))
        value).Lies _ (held ++ claimed.take copied ++ [value]) at placed
      rw [copiedLength, ← Nat.add_assoc, UInt64.ofNat_add, ← holds.write_eq] at placed
      exact placed
    next ended =>
      -- The values copied can be read from now on.
      have all : claimed.take copied = claimed :=
        take_of_length_le (List.getElem?_eq_none_iff.mp ended)
      have noneTaken : taken (machine.log ++ [.pushed claimed]) = taken machine.log := by
        rw [taken_concat]
        exact append_nil _
      have moreAccepted : accepted (machine.log ++ [.pushed claimed]) =
          accepted machine.log ++ claimed := by
        rw [accepted_concat]
        exact congrArg (_ ++ ·) (append_nil _)
      change machine.ring.Lies _ (held ++ claimed.take copied) at lies
      rw [all] at lies
      refine ⟨held ++ claimed, holds.masks, ?_, ?_, ?_, ?_, ?_, trivial, ?_⟩
      · show accepted (machine.log ++ _) = taken (machine.log ++ _) ++ _
        rw [moreAccepted, noneTaken, holds.fifo, append_assoc]
      · show machine.ring.read = UInt64.ofNat (taken (machine.log ++ _)).length
        rw [noneTaken, holds.read]
      · show machine.ring.write + _ = UInt64.ofNat (accepted (machine.log ++ _)).length
        rw [moreAccepted, length_append, UInt64.ofNat_add, holds.write]
      · show SpscRing.Lies _ (taken (machine.log ++ _)).length (held ++ claimed ++ [])
        rw [noneTaken, append_nil]
        exact lies
      · show (held ++ claimed).length + 0 ≤ _
        rw [length_append]
        exact room
      · exact holds.consumer.mono (prefix_append held claimed)

/-- A call of the consumer returns, and the first values held are taken. -/
theorem Holds.consume (holds : machine.Holds bits held) {count : Nat}
    (inside : count ≤ held.length) {outcome : Outcome α} (silent : accepted [outcome] = [])
    (takes : taken [outcome] = held.take count) :
    { machine with
      ring := { machine.ring with read := machine.ring.read + UInt64.ofNat count }
      consumer := .idle
      log := machine.log ++ [outcome] }.Holds bits (held.drop count) := by
  have sameAccepted : accepted (machine.log ++ [outcome]) = accepted machine.log := by
    rw [accepted_concat, silent, append_nil]
  have moreTaken : taken (machine.log ++ [outcome]) = taken machine.log ++ held.take count := by
    rw [taken_concat, takes]
  have length : (taken (machine.log ++ [outcome])).length =
      (taken machine.log).length + count := by
    rw [moreTaken, length_append, length_take, Nat.min_eq_left inside]
  refine ⟨holds.masks, ?_, ?_, ?_, ?_, ?_, holds.producer, trivial⟩
  · show accepted (machine.log ++ _) = taken (machine.log ++ _) ++ _
    rw [sameAccepted, moreTaken, append_assoc, take_append_drop, holds.fifo]
  · show machine.ring.read + _ = UInt64.ofNat (taken (machine.log ++ _)).length
    rw [length, holds.read, UInt64.ofNat_add]
  · show machine.ring.write = UInt64.ofNat (accepted (machine.log ++ _)).length
    rw [sameAccepted, holds.write]
  · show SpscRing.Lies _ (taken (machine.log ++ _)).length _
    have rest := holds.lies.drop count
    rw [drop_append_of_le_length inside] at rest
    rw [length]
    exact rest
  · have room := holds.room
    rw [length_drop]
    show held.length - count + machine.producer.claimed.length ≤ _
    omega

theorem Holds.stepConsumer (holds : machine.Holds bits held) :
    ∃ after, machine.stepConsumer.Holds bits after := by
  have knows := holds.consumer
  have close : held.length ≤ 2 ^ bits.val - 1 := Nat.le_trans (Nat.le_add_right _ _) holds.room
  have lies : machine.ring.Lies (taken machine.log).length held := by
    have whole := holds.lies.take held.length
    rwa [take_append_of_le_length (Nat.le_refl _), take_length] at whole
  unfold RingMachine.stepConsumer
  cases running : machine.consumer with
  | idle => exact ⟨held, holds⟩
  | called count => exact ⟨held, holds.withConsumer rfl⟩
  | loaded count read =>
    rw [running] at knows
    obtain rfl : read = machine.ring.read := knows
    have available := @toNat_distance bits _ holds.masks (taken machine.log).length _ close
    rw [← holds.write_eq, ← holds.read] at available
    refine ⟨held, holds.withConsumer ⟨rfl, ?_, Nat.zero_le _, rfl⟩⟩
    unfold SpscRing.readable
    rw [available]
    exact Nat.min_le_right _ _
  | copying count read copied =>
    rw [running] at knows
    obtain ⟨rfl, inside, few, same⟩ := knows
    dsimp only
    split
    next before =>
      have found := List.getElem?_eq_getElem (Nat.lt_of_lt_of_le before inside)
      have value := lies copied.length _ found
      rw [UInt64.ofNat_add, ← holds.read] at value
      refine ⟨held, holds.withConsumer ⟨rfl, inside, ?_, ?_⟩⟩
      · rw [length_append]
        exact before
      · rw [value, length_append, length_singleton, take_add_one, found]
        exact congrArg (· ++ [_]) same
    next ended =>
      obtain rfl : copied.length = count := Nat.le_antisymm few (Nat.not_lt.mp ended)
      refine ⟨held.drop copied.length, holds.consume inside rfl ?_⟩
      exact (append_nil _).trans same
  | discards =>
    refine ⟨held, holds.withConsumer ⟨held.length, Nat.le_refl _, ?_⟩⟩
    rw [holds.write_eq, UInt64.ofNat_add, ← holds.read]
  | discarding write =>
    rw [running] at knows
    obtain ⟨count, inside, rfl⟩ := knows
    refine ⟨held.drop count, holds.consume inside rfl ?_⟩
    refine (append_nil _).trans ?_
    dsimp only
    rw [holds.read, ← UInt64.ofNat_add]
    exact lies.between holds.masks inside (Nat.le_trans inside close)

theorem Holds.step (holds : machine.Holds bits held) (turn : Turn α) :
    ∃ after, (machine.step turn).Holds bits after := by
  cases turn with
  | push values =>
    refine ⟨held, ?_⟩
    unfold RingMachine.step
    dsimp only
    split
    next idle =>
      refine holds.withProducer rfl ?_ trivial (by rw [idle]; rfl)
      exact Nat.le_trans (Nat.le_add_right _ _) holds.room
    · exact holds
  | producer => exact holds.stepProducer
  | pop count =>
    refine ⟨held, ?_⟩
    unfold RingMachine.step
    dsimp only
    split
    · exact holds.withConsumer trivial
    · exact holds
  | discard =>
    refine ⟨held, ?_⟩
    unfold RingMachine.step
    dsimp only
    split
    · exact holds.withConsumer trivial
    · exact holds
  | consumer => exact holds.stepConsumer

theorem Holds.held_eq (holds : machine.Holds bits held) : machine.ring.held = held := by
  have close : held.length ≤ 2 ^ bits.val - 1 := Nat.le_trans (Nat.le_add_right _ _) holds.room
  unfold SpscRing.held
  rw [holds.write_eq, holds.read, holds.lies.between holds.masks (by simp) close]
  exact take_left

/-- The slot written next is none of those that hold a value. -/
theorem Holds.nextWrite_ne (holds : machine.Holds bits held) {slot : UInt64}
    (writes : machine.nextWrite = some slot) {place : Nat} (inside : place < held.length) :
    machine.ring.slotAt (machine.ring.read + UInt64.ofNat place) ≠ slot := by
  have knows := holds.producer
  have room := holds.room
  unfold nextWrite at writes
  cases running : machine.producer with
  | idle | called | loaded => rw [running] at writes; cases writes
  | copying claimed write copied =>
    rw [running] at writes knows room
    obtain rfl : write = machine.ring.write := knows
    change held.length + claimed.length ≤ _ at room
    dsimp only at writes
    split at writes
    next before =>
      obtain rfl := Option.some.inj writes
      have positive : 0 < 2 ^ bits.val := Nat.two_pow_pos _
      rw [holds.write_eq, holds.read, ← UInt64.ofNat_add, ← UInt64.ofNat_add, Nat.add_assoc]
      exact SpscRing.slotAt_ne holds.masks (by omega) (by omega)
    · cases writes

/-- A ring that has just been made. -/
def start (bits : Fin 64) (slots : UInt64 → α) : RingMachine α :=
  { ring := { mask := UInt64.ofNat (2 ^ bits.val - 1), slots } }

theorem start_holds (bits : Fin 64) (slots : UInt64 → α) : (start bits slots).Holds bits [] := by
  have small : 2 ^ bits.val < 2 ^ 64 := Nat.pow_lt_pow_right (by decide) bits.isLt
  refine ⟨?_, rfl, rfl, rfl, (fun _ _ found => nomatch found), Nat.zero_le _, trivial, trivial⟩
  show (UInt64.ofNat (2 ^ bits.val - 1)).toNat = _
  rw [UInt64.toNat_ofNat']
  exact Nat.mod_eq_of_lt (by omega)

theorem capacityFrom_eq (wanted : UInt64) (fits : wanted.toNat ≤ 2 ^ 63) (rounds bits : Nat)
    (small : bits < 64) (enough : 63 ≤ bits + rounds) :
    ∃ final < 64, SpscRing.capacityFrom rounds wanted (UInt64.ofNat (2 ^ bits)) =
      UInt64.ofNat (2 ^ final) ∧ wanted.toNat ≤ 2 ^ final := by
  induction rounds generalizing bits with
  | zero =>
    obtain rfl : bits = 63 := by omega
    exact ⟨63, small, rfl, fits⟩
  | succ rounds hypothesis =>
    have bound : 2 ^ bits < 2 ^ 64 := Nat.pow_lt_pow_right (by decide) small
    have value : (UInt64.ofNat (2 ^ bits)).toNat = 2 ^ bits := by
      rw [UInt64.toNat_ofNat']
      exact Nat.mod_eq_of_lt bound
    unfold SpscRing.capacityFrom
    split
    next below =>
      rw [UInt64.lt_iff_toNat_lt, value] at below
      have least : bits < 63 :=
        (Nat.pow_lt_pow_iff_right (by decide)).mp (Nat.lt_of_lt_of_le below fits)
      have doubled : UInt64.ofNat (2 ^ bits) <<< 1 = UInt64.ofNat (2 ^ (bits + 1)) := by
        apply UInt64.toNat.inj
        rw [UInt64.toNat_shiftLeft, value, UInt64.toNat_ofNat', Nat.pow_succ, Nat.shiftLeft_eq]
        rfl
      rw [doubled]
      exact hypothesis (bits + 1) (by omega) (by omega)
    next reached =>
      rw [UInt64.lt_iff_toNat_lt, value] at reached
      exact ⟨bits, small, rfl, Nat.not_lt.mp reached⟩

theorem create_eq_start (slots : UInt64 → α) (minimumCapacity : UInt64)
    (fits : minimumCapacity.toNat < 2 ^ 63) :
    ∃ bits : Fin 64, SpscRing.create slots minimumCapacity = (start bits slots).ring ∧
      minimumCapacity.toNat ≤ 2 ^ bits.val - 1 := by
  have wanted : (minimumCapacity + 1).toNat = minimumCapacity.toNat + 1 := by
    rw [UInt64.toNat_add]
    exact Nat.mod_eq_of_lt (show minimumCapacity.toNat + 1 < 2 ^ 64 by omega)
  obtain ⟨bits, small, capacity, room⟩ :=
    capacityFrom_eq (minimumCapacity + 1) (by rw [wanted]; exact fits) 64 0 (by decide) (by decide)
  have positive : 0 < 2 ^ bits := Nat.two_pow_pos _
  refine ⟨⟨bits, small⟩, ?_, ?_⟩
  · unfold SpscRing.create start
    change SpscRing.capacityFrom 64 (minimumCapacity + 1) 1 = _ at capacity
    rw [capacity, UInt64.ofNat_sub positive]
    rfl
  · rw [wanted] at room
    show _ ≤ 2 ^ bits - 1
    omega

/-- However the threads are scheduled, the values accepted are those taken, in the same order,
followed by those held, which are at most as many as the mask; and a push never writes to a slot
that holds a value. -/
theorem ring_bounded_fifo (bits : Fin 64) (slots : UInt64 → α) (turns : List (Turn α)) :
    let machine := run RingMachine.step (start bits slots) turns
    accepted machine.log = taken machine.log ++ machine.ring.held ∧
      machine.ring.held.length ≤ 2 ^ bits.val - 1 ∧
      ∀ slot, machine.nextWrite = some slot → ∀ place < machine.ring.held.length,
        machine.ring.slotAt (machine.ring.read + UInt64.ofNat place) ≠ slot := by
  intro machine
  obtain ⟨held, holds⟩ : ∃ held, machine.Holds bits held :=
    loop_keeps (fun machine => ∃ held, RingMachine.Holds bits machine held) turns
      (fun _ turn _ ⟨_, holds⟩ => holds.step turn) ⟨[], start_holds bits slots⟩
  rw [holds.held_eq]
  exact ⟨holds.fifo, Nat.le_trans (Nat.le_add_right _ _) holds.room,
    fun _ writes _ inside => holds.nextWrite_ne writes inside⟩

/-! ### Whole calls -/

theorem run_copying (machine : RingMachine α) (claimed : List α) (write : UInt64) (copied : Nat)
    (inside : copied ≤ claimed.length)
    (running : machine.producer = .copying claimed write copied) :
    run RingMachine.step machine (List.replicate (claimed.length - copied) .producer) =
      { machine with
        ring := machine.ring.copyAll (write + UInt64.ofNat copied) (claimed.drop copied)
        producer := .copying claimed write claimed.length } := by
  induction rest : claimed.length - copied generalizing machine copied with
  | zero =>
    obtain rfl : copied = claimed.length := by omega
    rw [drop_length, ← running]
    rfl
  | succ more hypothesis =>
    have before : copied < claimed.length := by omega
    have found := List.getElem?_eq_getElem before
    have stepped : machine.step .producer =
        { machine with
          ring := machine.ring.copy (write + UInt64.ofNat copied) claimed[copied]
          producer := .copying claimed write (copied + 1) } := by
      show machine.stepProducer = _
      unfold RingMachine.stepProducer
      rw [running]
      dsimp only
      rw [found]
    rw [replicate_succ, run_cons, stepped,
      hypothesis _ (copied + 1) before rfl (by omega), drop_eq_getElem_cons before,
      UInt64.ofNat_add, ← UInt64.add_assoc]
    rfl

theorem replicate_add_three {β : Type} (count : Nat) (turn : β) :
    List.replicate (count + 3) turn = turn :: turn :: (List.replicate count turn ++ [turn]) := by
  rw [← replicate_succ', ← replicate_succ, ← replicate_succ]

/-- A push that nothing interrupts. -/
theorem run_push (machine : RingMachine α) (values : List α) (idle : machine.producer = .idle) :
    run RingMachine.step machine (.push values ::
        List.replicate ((machine.ring.push values).1.length + 3) .producer) =
      { machine with
        ring := (machine.ring.push values).2
        log := machine.log ++ [.pushed (machine.ring.push values).1] } := by
  obtain ⟨ring, producer, consumer, log⟩ := machine
  obtain rfl : producer = .idle := idle
  let claimed := ring.fitting values ring.write ring.read
  let copying : RingMachine α := ⟨ring, .copying claimed ring.write 0, consumer, log⟩
  have copied := run_copying copying claimed ring.write 0 (Nat.zero_le _) rfl
  rw [Nat.sub_zero, drop_zero, show UInt64.ofNat 0 = 0 from rfl, UInt64.add_zero] at copied
  rw [replicate_add_three]
  show run RingMachine.step copying (List.replicate claimed.length .producer ++ [.producer]) = _
  rw [run_append, copied]
  rw [run_cons, run_nil, RingMachine.step, RingMachine.stepProducer]
  dsimp only
  rw [List.getElem?_eq_none (Nat.le_refl _)]
  rfl

theorem run_reading (machine : RingMachine α) (count : Nat) (read : UInt64) (copied : Nat)
    (inside : copied ≤ count)
    (running : machine.consumer = .copying count read ((List.range copied).map fun place =>
      machine.ring.slots (machine.ring.slotAt (read + UInt64.ofNat place)))) :
    run RingMachine.step machine (List.replicate (count - copied) .consumer) =
      { machine with
        consumer := .copying count read ((List.range count).map fun place =>
          machine.ring.slots (machine.ring.slotAt (read + UInt64.ofNat place))) } := by
  induction rest : count - copied generalizing machine copied with
  | zero =>
    obtain rfl : copied = count := by omega
    rw [← running]
    rfl
  | succ more hypothesis =>
    have stepped : machine.step .consumer =
        { machine with
          consumer := .copying count read ((List.range (copied + 1)).map fun place =>
            machine.ring.slots (machine.ring.slotAt (read + UInt64.ofNat place))) } := by
      show machine.stepConsumer = _
      unfold RingMachine.stepConsumer
      rw [running]
      dsimp only
      rw [length_map, length_range, if_pos (by omega), range_succ, map_append]
      rfl
    rw [replicate_succ, run_cons, stepped,
      hypothesis _ (copied + 1) (by omega) rfl (by omega)]

/-- A pop that nothing interrupts. -/
theorem run_pop (machine : RingMachine α) (count : Nat) (idle : machine.consumer = .idle) :
    run RingMachine.step machine (.pop count ::
        List.replicate ((machine.ring.pop count).1.length + 3) .consumer) =
      { machine with
        ring := (machine.ring.pop count).2
        log := machine.log ++ [.popped (machine.ring.pop count).1] } := by
  obtain ⟨ring, producer, consumer, log⟩ := machine
  obtain rfl : consumer = .idle := idle
  let number := ring.readable count ring.write ring.read
  let reading : RingMachine α := ⟨ring, producer, .copying number ring.read [], log⟩
  have copied := run_reading reading number ring.read 0 (Nat.zero_le _) rfl
  have length : (ring.pop count).1.length = number := by
    unfold SpscRing.pop
    rw [length_map, length_range]
  rw [Nat.sub_zero] at copied
  show run RingMachine.step _ (.pop count :: List.replicate ((ring.pop count).1.length + 3) _) = _
  rw [length, replicate_add_three]
  show run RingMachine.step reading (List.replicate number .consumer ++ [.consumer]) = _
  rw [run_append, copied]
  rw [run_cons, run_nil, RingMachine.step, RingMachine.stepConsumer]
  dsimp only
  rw [length_map, length_range, if_neg (Nat.lt_irrefl _)]
  rfl

theorem run_discard (machine : RingMachine α) (idle : machine.consumer = .idle) :
    run RingMachine.step machine [.discard, .consumer, .consumer] =
      { machine with
        ring := machine.ring.discard
        log := machine.log ++ [.discarded machine.ring.held] } := by
  obtain ⟨ring, producer, consumer, log⟩ := machine
  obtain rfl : consumer = .idle := idle
  rfl

end RingMachine

end KetPhone.Media
