/-
This file develops the ordered map that a loop visits in the order of its keys,
for values that know the key they are kept under: a list of values whose keys
increase strictly. The order is part of the type, so a key has one value and
every value stands under its own key. Each operation is characterised by what
`find` returns afterwards.
-/

import Mathlib.Algebra.GroupWithZero.Nat
import Mathlib.Data.List.Lex
import Mathlib.Order.Lattice
import Mathlib.Order.Lex

namespace KetPhone

open List

instance byteOrder : LinearOrder UInt8 where
  le_refl := UInt8.le_refl
  le_trans := fun _ _ _ => UInt8.le_trans
  le_antisymm := fun _ _ => UInt8.le_antisymm
  le_total := UInt8.le_total
  lt_iff_le_not_ge := fun first second => by
    rw [UInt8.lt_iff_toNat_lt, UInt8.le_iff_toNat_le, UInt8.le_iff_toNat_le]
    omega
  toDecidableLE := inferInstance
  toDecidableEq := inferInstance
  toDecidableLT := inferInstance

/-- A map as the list of its values in the order of their keys. -/
@[ext]
structure OrderedMap {κ α : Type} [LinearOrder κ] (keyOf : α → κ) where
  values : List α
  sorted : values.Pairwise fun first second => keyOf first < keyOf second

namespace OrderedMap

variable {κ α : Type} [LinearOrder κ] {keyOf : α → κ}

/-- The map without values. -/
def empty : OrderedMap keyOf := ⟨[], List.Pairwise.nil⟩

/-- The value kept under a key. -/
def find (map : OrderedMap keyOf) (key : κ) : Option α :=
  map.values.find? fun value => keyOf value = key

/-- Places a value, in the stead of one with the same key. -/
def place (keyOf : α → κ) (value : α) : List α → List α
  | [] => [value]
  | head :: rest =>
    if keyOf value < keyOf head then value :: head :: rest
    else if keyOf value = keyOf head then value :: rest
    else head :: place keyOf value rest

theorem mem_place {value other : α} {values : List α} (member : other ∈ place keyOf value values) :
    other = value ∨ other ∈ values := by
  induction values with
  | nil => exact Or.inl (mem_singleton.mp member)
  | cons head rest hypothesis =>
    unfold place at member
    split at member
    · exact mem_cons.mp member
    · split at member
      · exact (mem_cons.mp member).imp_right (mem_cons_of_mem _)
      · rcases mem_cons.mp member with equal | member
        · exact Or.inr (equal ▸ mem_cons_self)
        · exact (hypothesis member).imp_right (mem_cons_of_mem _)

theorem sorted_place (value : α) {values : List α}
    (sorted : values.Pairwise fun first second => keyOf first < keyOf second) :
    (place keyOf value values).Pairwise fun first second => keyOf first < keyOf second := by
  induction values with
  | nil => exact pairwise_singleton _ _
  | cons head rest hypothesis =>
    obtain ⟨below, sortedRest⟩ := pairwise_cons.mp sorted
    unfold place
    split
    next before =>
      refine pairwise_cons.mpr ⟨fun other member => ?_, sorted⟩
      rcases mem_cons.mp member with rfl | member
      · exact before
      · exact before.trans (below other member)
    next notBefore =>
      split
      next same => exact pairwise_cons.mpr ⟨same ▸ below, sortedRest⟩
      next different =>
        refine pairwise_cons.mpr ⟨fun other member => ?_, hypothesis sortedRest⟩
        rcases mem_place member with rfl | member
        · exact lt_of_le_of_ne (not_lt.mp notBefore) (Ne.symm different)
        · exact below other member

/-- Keeps a value under its key. -/
def put (map : OrderedMap keyOf) (value : α) : OrderedMap keyOf :=
  ⟨place keyOf value map.values, sorted_place value map.sorted⟩

def erase (map : OrderedMap keyOf) (key : κ) : OrderedMap keyOf :=
  ⟨map.values.filter fun value => keyOf value ≠ key, map.sorted.filter _⟩

/-- Changes every value in place. -/
def change (map : OrderedMap keyOf) (update : α → α)
    (kept : ∀ value, keyOf (update value) = keyOf value) : OrderedMap keyOf :=
  ⟨map.values.map update, List.pairwise_map.mpr (by simpa only [kept] using map.sorted)⟩

/-! ### What `find` returns -/

theorem keyOf_of_find {map : OrderedMap keyOf} {key : κ} {value : α}
    (found : map.find key = some value) : keyOf value = key := by
  simpa using List.find?_some found

theorem mem_values_iff (map : OrderedMap keyOf) (value : α) :
    value ∈ map.values ↔ map.find (keyOf value) = some value := by
  refine ⟨fun member => ?_, fun found => mem_of_find?_eq_some found⟩
  obtain ⟨values, sorted⟩ := map
  unfold find
  induction values with
  | nil => exact absurd member not_mem_nil
  | cons head rest hypothesis =>
    obtain ⟨below, sortedRest⟩ := pairwise_cons.mp sorted
    rcases mem_cons.mp member with rfl | member
    · simp
    · have skipped : ¬ decide (keyOf head = keyOf value) = true := by
        simpa using ne_of_lt (below value member)
      rw [List.find?_cons_of_neg (p := fun other => decide (keyOf other = keyOf value)) skipped]
      exact hypothesis sortedRest member

theorem find_eq_some_iff {map : OrderedMap keyOf} {key : κ} {value : α} :
    map.find key = some value ↔ value ∈ map.values ∧ keyOf value = key := by
  constructor
  · intro found
    exact ⟨mem_of_find?_eq_some found, keyOf_of_find found⟩
  · rintro ⟨member, rfl⟩
    exact (map.mem_values_iff value).mp member

theorem mem_values_put {map : OrderedMap keyOf} {value other : α} :
    other ∈ (map.put value).values ↔
      other = value ∨ (keyOf other ≠ keyOf value ∧ other ∈ map.values) := by
  obtain ⟨values, sorted⟩ := map
  show other ∈ place keyOf value values ↔ _
  induction values with
  | nil => simp [place]
  | cons head rest hypothesis =>
    obtain ⟨below, sortedRest⟩ := pairwise_cons.mp sorted
    have step := hypothesis sortedRest
    unfold place
    split
    next before =>
      have above : other ∈ head :: rest → keyOf other ≠ keyOf value := fun member => by
        rcases mem_cons.mp member with rfl | member
        · exact ne_of_gt before
        · exact ne_of_gt (before.trans (below other member))
      rw [mem_cons]
      exact or_congr_right ⟨fun member => ⟨above member, member⟩, And.right⟩
    next notBefore =>
      split
      next same =>
        rw [mem_cons, mem_cons]
        refine or_congr_right ⟨fun member => ⟨?_, Or.inr member⟩, ?_⟩
        · exact same ▸ ne_of_gt (below other member)
        · rintro ⟨different, rfl | member⟩
          · exact absurd same.symm different
          · exact member
      next different =>
        rw [mem_cons, step, mem_cons]
        constructor
        · rintro (rfl | rfl | ⟨apart, member⟩)
          · exact Or.inr ⟨Ne.symm different, Or.inl rfl⟩
          · exact Or.inl rfl
          · exact Or.inr ⟨apart, Or.inr member⟩
        · rintro (rfl | ⟨apart, rfl | member⟩)
          · exact Or.inr (Or.inl rfl)
          · exact Or.inl rfl
          · exact Or.inr (Or.inr ⟨apart, member⟩)

theorem find_put (map : OrderedMap keyOf) (value : α) (key : κ) :
    (map.put value).find key = if key = keyOf value then some value else map.find key := by
  refine Option.ext fun kept => ?_
  rw [find_eq_some_iff, mem_values_put]
  split
  next same =>
    constructor
    · rintro ⟨rfl | ⟨apart, -⟩, under⟩
      · rfl
      · exact absurd (under.trans same) apart
    · rintro ⟨⟩
      exact ⟨Or.inl rfl, same.symm⟩
  next different =>
    rw [find_eq_some_iff]
    constructor
    · rintro ⟨rfl | ⟨-, member⟩, under⟩
      · exact absurd under.symm different
      · exact ⟨member, under⟩
    · rintro ⟨member, rfl⟩
      exact ⟨Or.inr ⟨different, member⟩, rfl⟩

theorem find_erase (map : OrderedMap keyOf) (key other : κ) :
    (map.erase key).find other = if other = key then none else map.find other := by
  refine Option.ext fun kept => ?_
  rw [find_eq_some_iff, erase, mem_filter]
  split
  next same => simp +contextual [same]
  next different =>
    rw [find_eq_some_iff]
    constructor
    · rintro ⟨⟨member, -⟩, under⟩
      exact ⟨member, under⟩
    · rintro ⟨member, rfl⟩
      exact ⟨⟨member, by simpa using different⟩, rfl⟩

theorem eq_of_key_eq (map : OrderedMap keyOf) {value other : α} (member : value ∈ map.values)
    (also : other ∈ map.values) (same : keyOf other = keyOf value) : other = value := by
  have found := (map.mem_values_iff other).mp also
  rw [same, (map.mem_values_iff value).mp member] at found
  exact (Option.some.inj found).symm

theorem mem_values_erase {map : OrderedMap keyOf} {key : κ} {value : α} :
    value ∈ (map.erase key).values ↔ value ∈ map.values ∧ keyOf value ≠ key := by
  unfold erase
  rw [mem_filter, decide_eq_true_iff]

theorem erase_of_find_eq_none {map : OrderedMap keyOf} {key : κ} (missing : map.find key = none) :
    map.erase key = map := by
  refine OrderedMap.ext (filter_eq_self.mpr fun value member => ?_)
  rw [decide_eq_true_iff]
  rintro rfl
  rw [(map.mem_values_iff value).mp member] at missing
  cases missing

theorem ne_of_find_eq_none {map : OrderedMap keyOf} {key : κ} (absent : map.find key = none)
    {value : α} (member : value ∈ map.values) : keyOf value ≠ key := by
  rintro rfl
  rw [(map.mem_values_iff value).mp member] at absent
  cases absent

theorem head_le {map : OrderedMap keyOf} {first value : α} (head : map.values.head? = some first)
    (member : value ∈ map.values) : keyOf first ≤ keyOf value := by
  obtain ⟨values, sorted⟩ := map
  cases values with
  | nil => cases head
  | cons least rest =>
    cases head
    rcases mem_cons.mp member with rfl | later
    · exact le_refl _
    · exact le_of_lt ((pairwise_cons.mp sorted).1 value later)

/-! ### Sums over the values -/

theorem nodup_values (map : OrderedMap keyOf) : map.values.Nodup :=
  map.sorted.imp fun before same => absurd (congrArg keyOf same) (ne_of_lt before)

theorem values_put_perm (map : OrderedMap keyOf) (value : α) :
    (map.put value).values.Perm (value :: (map.erase (keyOf value)).values) := by
  have apart : value ∉ (map.erase (keyOf value)).values := fun member =>
    (mem_values_erase.mp member).2 rfl
  refine (perm_ext_iff_of_nodup (nodup_values _)
    (nodup_cons.mpr ⟨apart, nodup_values _⟩)).mpr fun other => ?_
  rw [mem_values_put, mem_cons, mem_values_erase, and_comm]

theorem values_erase_perm {map : OrderedMap keyOf} {value : α} (member : value ∈ map.values) :
    map.values.Perm (value :: (map.erase (keyOf value)).values) := by
  have apart : value ∉ (map.erase (keyOf value)).values := fun erased =>
    (mem_values_erase.mp erased).2 rfl
  refine (perm_ext_iff_of_nodup (nodup_values _)
    (nodup_cons.mpr ⟨apart, nodup_values _⟩)).mpr fun other => ?_
  rw [mem_cons, mem_values_erase]
  constructor
  · intro kept
    by_cases same : keyOf other = keyOf value
    · exact Or.inl (map.eq_of_key_eq member kept same)
    · exact Or.inr ⟨kept, same⟩
  · rintro (rfl | ⟨kept, -⟩)
    · exact member
    · exact kept

theorem length_put {map : OrderedMap keyOf} {value : α} (absent : map.find (keyOf value) = none) :
    (map.put value).values.length = map.values.length + 1 := by
  rw [(map.values_put_perm value).length_eq, erase_of_find_eq_none absent, length_cons]

theorem length_erase {map : OrderedMap keyOf} {key : κ} {value : α}
    (found : map.find key = some value) :
    map.values.length = (map.erase key).values.length + 1 := by
  obtain ⟨member, rfl⟩ := find_eq_some_iff.mp found
  rw [(values_erase_perm member).length_eq, length_cons]

/-- The sum of a weight over the values. -/
def sum (weight : α → Nat) (map : OrderedMap keyOf) : Nat := (map.values.map weight).sum

theorem sum_put (weight : α → Nat) (map : OrderedMap keyOf) (value : α) :
    (map.put value).sum weight = weight value + (map.erase (keyOf value)).sum weight :=
  ((map.values_put_perm value).map weight).sum_nat

theorem sum_erase (weight : α → Nat) {map : OrderedMap keyOf} {value : α}
    (member : value ∈ map.values) :
    map.sum weight = weight value + (map.erase (keyOf value)).sum weight :=
  ((values_erase_perm member).map weight).sum_nat

theorem sum_erase_le (weight : α → Nat) (map : OrderedMap keyOf) (key : κ) :
    (map.erase key).sum weight ≤ map.sum weight := by
  cases found : map.find key with
  | none => rw [erase_of_find_eq_none found]
  | some value =>
    obtain ⟨member, rfl⟩ := find_eq_some_iff.mp found
    rw [sum_erase weight member]
    exact Nat.le_add_left _ _

end OrderedMap

end KetPhone
