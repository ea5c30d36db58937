/-
This file models `sip/base64.cpp`, the encoding SDES keys and PEM bodies travel
in, and shows that decoding gives back what was encoded.

The decoder shifts six bits at a time into a word of 32 and lets the upper ones
fall out. Read as numbers, a sextet is a digit to the base 64 and a byte one to the
base 256, and each byte is cut out of the word before anything of it is lost.
-/

import KetPhone.Bytes
import Mathlib.Data.List.GetD

namespace KetPhone.Sip

open List

def kAlphabet : Bytes :=
  ascii "ABCDEFGHIJKLMNOPQRSTUVWXYZabcdefghijklmnopqrstuvwxyz0123456789+/"

/-- The character of the alphabet for the low six bits. -/
def alphabetAt (sextet : UInt32) : UInt8 := kAlphabet.getD (sextet &&& 63).toNat 0

def base64Encode : Bytes → Bytes
  | first :: second :: third :: rest =>
    let triple := first.toUInt32 <<< 16 ||| second.toUInt32 <<< 8 ||| third.toUInt32
    alphabetAt (triple >>> 18) :: alphabetAt (triple >>> 12) :: alphabetAt (triple >>> 6) ::
      alphabetAt triple :: base64Encode rest
  | [first, second] =>
    let triple := first.toUInt32 <<< 16 ||| second.toUInt32 <<< 8
    [alphabetAt (triple >>> 18), alphabetAt (triple >>> 12), alphabetAt (triple >>> 6), 61]
  | [first] =>
    let triple := first.toUInt32 <<< 16
    [alphabetAt (triple >>> 18), alphabetAt (triple >>> 12), 61, 61]
  | [] => []

/-- `value_of`: the six bits of a character, or nothing for one outside the alphabet. -/
def valueOf (character : UInt8) : Option UInt32 :=
  if 65 ≤ character ∧ character ≤ 90 then some (character.toUInt32 - 65)
  else if 97 ≤ character ∧ character ≤ 122 then some (character.toUInt32 - 97 + 26)
  else if 48 ≤ character ∧ character ≤ 57 then some (character.toUInt32 - 48 + 52)
  else if character = 43 then some 62
  else if character = 47 then some 63
  else none

/-- The bits read so far and the bytes they completed. -/
structure DecodeState where
  accumulator : UInt32 := 0
  bits : Nat := 0
  out : Bytes := []

def decodeCharacter (state : DecodeState) (character : UInt8) : Option DecodeState :=
  (valueOf character).map fun value =>
    let accumulator := state.accumulator <<< 6 ||| value
    let bits := state.bits + 6
    if 8 ≤ bits then
      { accumulator, bits := bits - 8,
        out := state.out ++ [(accumulator >>> UInt32.ofNat (bits - 8) &&& 0xff).toUInt8] }
    else { accumulator, bits, out := state.out }

def base64Decode (text : Bytes) : Option Bytes :=
  let body := text.rdropWhile (· == 61)
  let padding := text.length - body.length
  if body.length % 4 = 1 ∨ padding > 2 ∨ (padding > 0 ∧ (body.length + padding) % 4 ≠ 0) then none
  else
    match body.foldlM decodeCharacter {} with
    | none => none
    | some state =>
      if state.accumulator &&& (1 <<< UInt32.ofNat state.bits - 1) ≠ 0 then none
      else some state.out

/-! ### Words as numbers -/

theorem toNat_sextet (value : UInt32) : (value &&& 63).toNat = value.toNat % 64 := by
  rw [UInt32.toNat_and]
  exact Nat.and_two_pow_sub_one_eq_mod _ 6

theorem toNat_octet (value : UInt32) : (value &&& 255).toUInt8.toNat = value.toNat % 256 := by
  have low := Nat.and_two_pow_sub_one_eq_mod value.toNat 8
  rw [UInt32.toNat_toUInt8, UInt32.toNat_and]
  change (value.toNat &&& 255) % 256 = _
  change value.toNat &&& 255 = _ at low
  omega

theorem toNat_shift_or (accumulator : UInt32) {sextet : UInt32} (small : sextet.toNat < 64) :
    (accumulator <<< 6 ||| sextet).toNat = accumulator.toNat * 64 % 2 ^ 32 + sextet.toNat := by
  have kept : accumulator.toNat * 64 % 2 ^ 32 = (accumulator.toNat % 2 ^ 26) <<< 6 := by
    rw [Nat.shiftLeft_eq]
    omega
  have shifted : (accumulator <<< 6).toNat = accumulator.toNat * 64 % 2 ^ 32 := by
    rw [UInt32.toNat_shiftLeft]
    exact congrArg (· % 2 ^ 32) (Nat.shiftLeft_eq _ 6)
  rw [UInt32.toNat_or, shifted, kept, Nat.shiftLeft_add_eq_or_of_lt small]

/-- The bytes of a group one behind the other. -/
theorem toNat_triple (first second third : UInt8) :
    (first.toUInt32 <<< 16 ||| second.toUInt32 <<< 8 ||| third.toUInt32).toNat =
      first.toNat * 65536 + second.toNat * 256 + third.toNat := by
  have high := first.toNat_lt
  have middle := second.toNat_lt
  have low : third.toNat < 2 ^ 8 := third.toNat_lt
  have shiftHigh : (first.toUInt32 <<< 16).toNat = first.toNat <<< 16 := by
    rw [UInt32.toNat_shiftLeft]
    refine Nat.mod_eq_of_lt ?_
    change first.toNat <<< 16 < _
    rw [Nat.shiftLeft_eq]
    omega
  have shiftMiddle : (second.toUInt32 <<< 8).toNat = second.toNat <<< 8 := by
    rw [UInt32.toNat_shiftLeft]
    refine Nat.mod_eq_of_lt ?_
    change second.toNat <<< 8 < _
    rw [Nat.shiftLeft_eq]
    omega
  have pair : second.toNat <<< 8 ||| third.toNat < 2 ^ 16 := by
    rw [← Nat.shiftLeft_add_eq_or_of_lt low, Nat.shiftLeft_eq]
    omega
  rw [UInt32.toNat_or, UInt32.toNat_or, shiftHigh, shiftMiddle, UInt8.toNat_toUInt32,
    Nat.or_assoc, ← Nat.shiftLeft_add_eq_or_of_lt pair, ← Nat.shiftLeft_add_eq_or_of_lt low,
    Nat.shiftLeft_eq, Nat.shiftLeft_eq]
  omega

/-! ### Decoding what was encoded -/

theorem valueOf_kAlphabet : ∀ sextet < 64,
    valueOf (kAlphabet.getD sextet 0) = some (UInt32.ofNat sextet) := by
  decide +kernel

theorem valueOf_alphabetAt (sextet : UInt32) :
    valueOf (alphabetAt sextet) = some (sextet &&& 63) := by
  have small : (sextet &&& 63).toNat < 64 := by
    rw [toNat_sextet]
    omega
  unfold alphabetAt
  rw [valueOf_kAlphabet _ small, UInt32.ofNat_toNat]

theorem alphabetAt_mem (sextet : UInt32) : alphabetAt sextet ∈ kAlphabet := by
  have small : (sextet &&& 63).toNat < kAlphabet.length := by
    rw [toNat_sextet]
    exact Nat.mod_lt _ (by decide)
  unfold alphabetAt
  rw [getD_eq_getElem _ _ small]
  exact getElem_mem small

/-- The bits that are not part of a byte yet. -/
def DecodeState.pending (state : DecodeState) : Nat := state.accumulator.toNat % 2 ^ state.bits

theorem decodeCharacter_first (state : DecodeState) (sextet : UInt32) (idle : state.bits = 0) :
    ∃ next, decodeCharacter state (alphabetAt sextet) = some next ∧ next.bits = 6 ∧
      next.out = state.out ∧ next.pending = sextet.toNat % 64 := by
  have small : (sextet &&& 63).toNat < 64 := toNat_sextet sextet ▸ Nat.mod_lt _ (by decide)
  refine ⟨{ accumulator := state.accumulator <<< 6 ||| sextet &&& 63, bits := 6, out := state.out },
    ?_, rfl, rfl, ?_⟩
  · unfold decodeCharacter
    rw [valueOf_alphabetAt, idle]
    rfl
  · unfold DecodeState.pending
    dsimp only
    rw [toNat_shift_or _ small, toNat_sextet]
    omega

/-- Every other character completes a byte. -/
theorem decodeCharacter_next (state : DecodeState) (sextet : UInt32)
    (waiting : state.bits = 2 ∨ state.bits = 4 ∨ state.bits = 6) :
    ∃ next, decodeCharacter state (alphabetAt sextet) = some next ∧
      next.bits = state.bits - 2 ∧
      next.out = state.out ++
        [UInt8.ofNat ((state.pending * 64 + sextet.toNat % 64) / 2 ^ (state.bits - 2))] ∧
      next.pending = (state.pending * 64 + sextet.toNat % 64) % 2 ^ (state.bits - 2) := by
  have small : (sextet &&& 63).toNat < 64 := toNat_sextet sextet ▸ Nat.mod_lt _ (by decide)
  have longer := toNat_shift_or state.accumulator small
  rw [toNat_sextet] at longer
  generalize shifted : state.accumulator <<< 6 ||| sextet &&& 63 = accumulator at longer
  have less : state.bits + 6 - 8 = state.bits - 2 := by omega
  refine ⟨{ accumulator, bits := state.bits - 2, out := state.out ++
    [(accumulator >>> UInt32.ofNat (state.bits - 2) &&& 0xff).toUInt8] }, ?_, rfl, ?_, ?_⟩
  · unfold decodeCharacter
    rw [valueOf_alphabetAt]
    dsimp only [Option.map_some]
    rw [if_pos (by omega), less, shifted]
  · refine congrArg (fun byte => state.out ++ [byte]) (UInt8.toNat_inj.mp ?_)
    rw [toNat_octet, UInt32.toNat_shiftRight, UInt8.toNat_ofNat', Nat.shiftRight_eq_div_pow, longer]
    unfold DecodeState.pending
    rcases waiting with bits | bits | bits
    all_goals
      rw [bits]
      simp only [Nat.reduceSub, UInt32.reduceOfNat, UInt32.reduceToNat, Nat.reduceMod]
      omega
  · unfold DecodeState.pending
    dsimp only
    rw [longer]
    rcases waiting with bits | bits | bits
    all_goals
      rw [bits]
      omega

theorem toNat_shiftRight_places (value : UInt32) :
    (value >>> 18).toNat = value.toNat / 2 ^ 18 ∧ (value >>> 12).toNat = value.toNat / 2 ^ 12 ∧
      (value >>> 6).toNat = value.toNat / 2 ^ 6 := by
  refine ⟨?_, ?_, ?_⟩
  all_goals
    rw [UInt32.toNat_shiftRight]
    exact Nat.shiftRight_eq_div_pow _ _

theorem decode_concat {state middle next : DecodeState} {text : Bytes} {character : UInt8}
    (read : text.foldlM decodeCharacter state = some middle)
    (last : decodeCharacter middle character = some next) :
    (text ++ [character]).foldlM decodeCharacter state = some next := by
  rw [foldlM_append, read, Option.bind_eq_bind, Option.bind_some, foldlM_cons, last]
  rfl

section Groups

variable {state : DecodeState} (idle : state.bits = 0) {triple : UInt32} {number : Nat}
  (value : triple.toNat = number) (small : number < 2 ^ 24)
include idle value small

theorem decode_two :
    ∃ next, [alphabetAt (triple >>> 18), alphabetAt (triple >>> 12)].foldlM decodeCharacter state =
        some next ∧ next.bits = 4 ∧ next.out = state.out ++ [UInt8.ofNat (number / 2 ^ 16)] ∧
      next.pending = number / 2 ^ 12 % 16 := by
  obtain ⟨high, middle, -⟩ := toNat_shiftRight_places triple
  obtain ⟨first, read, bits, out, pending⟩ := decodeCharacter_first state (triple >>> 18) idle
  obtain ⟨second, readMore, bitsMore, outMore, pendingMore⟩ :=
    decodeCharacter_next first (triple >>> 12) (by omega)
  refine ⟨second, ?_, by omega, ?_, ?_⟩
  · exact decode_concat (@decode_concat state state first [] _ rfl read) readMore
  · rw [outMore, out, pending, bits, high, middle, value]
    congr 3
    omega
  · rw [pendingMore, pending, bits, high, middle, value]
    omega

theorem decode_three :
    ∃ next, [alphabetAt (triple >>> 18), alphabetAt (triple >>> 12),
        alphabetAt (triple >>> 6)].foldlM decodeCharacter state = some next ∧ next.bits = 2 ∧
      next.out = state.out ++ [UInt8.ofNat (number / 2 ^ 16), UInt8.ofNat (number / 2 ^ 8)] ∧
      next.pending = number / 2 ^ 6 % 4 := by
  obtain ⟨-, -, low⟩ := toNat_shiftRight_places triple
  obtain ⟨second, read, bits, out, pending⟩ := decode_two idle value small
  obtain ⟨third, readMore, bitsMore, outMore, pendingMore⟩ :=
    decodeCharacter_next second (triple >>> 6) (by omega)
  refine ⟨third, ?_, by omega, ?_, ?_⟩
  · exact decode_concat read readMore
  · rw [outMore, out, pending, bits, low, value, append_assoc]
    refine congrArg (fun byte => state.out ++ [_, byte]) (UInt8.toNat_inj.mp ?_)
    rw [UInt8.toNat_ofNat', UInt8.toNat_ofNat']
    omega
  · rw [pendingMore, pending, bits, low, value]
    omega

theorem decode_four :
    ∃ next, [alphabetAt (triple >>> 18), alphabetAt (triple >>> 12), alphabetAt (triple >>> 6),
        alphabetAt triple].foldlM decodeCharacter state = some next ∧ next.bits = 0 ∧
      next.out = state.out ++
        [UInt8.ofNat (number / 2 ^ 16), UInt8.ofNat (number / 2 ^ 8), UInt8.ofNat number] := by
  obtain ⟨third, read, bits, out, pending⟩ := decode_three idle value small
  obtain ⟨fourth, readMore, bitsMore, outMore, -⟩ :=
    decodeCharacter_next third triple (by omega)
  refine ⟨fourth, ?_, by omega, ?_⟩
  · exact decode_concat read readMore
  · rw [outMore, out, pending, bits, value, append_assoc]
    refine congrArg (fun byte => state.out ++ [_, _, byte]) (UInt8.toNat_inj.mp ?_)
    rw [UInt8.toNat_ofNat', UInt8.toNat_ofNat']
    omega

end Groups

/-- An encoded text: characters of the alphabet, which are decoded to the data without leaving a
bit over, and padding. -/
structure Encoded (data body : Bytes) (padding : Nat) : Prop where
  whole : base64Encode data = body ++ List.replicate padding 61
  alphabet : ∀ character ∈ body, character ∈ kAlphabet
  few : padding ≤ 2
  groups : (body.length + padding) % 4 = 0
  decodes : ∀ state : DecodeState, state.bits = 0 →
    ∃ next, body.foldlM decodeCharacter state = some next ∧ next.out = state.out ++ data ∧
      next.pending = 0 ∧ (next.bits = 0 ∨ next.bits = 2 ∨ next.bits = 4)

theorem ofNat_triple (first second third : UInt8) :
    let number := first.toNat * 65536 + second.toNat * 256 + third.toNat
    number < 2 ^ 24 ∧ UInt8.ofNat (number / 2 ^ 16) = first ∧
      UInt8.ofNat (number / 2 ^ 8) = second ∧ UInt8.ofNat number = third := by
  have high := first.toNat_lt
  have middle := second.toNat_lt
  have low := third.toNat_lt
  simp only [← UInt8.toNat_inj, UInt8.toNat_ofNat']
  omega

theorem exists_encoded (data : Bytes) : ∃ body padding, Encoded data body padding := by
  induction data using base64Encode.induct with
  | case1 first second third rest hypothesis =>
    obtain ⟨body, padding, encoded⟩ := hypothesis
    obtain ⟨small, high, middle, low⟩ := ofNat_triple first second third
    let triple := first.toUInt32 <<< 16 ||| second.toUInt32 <<< 8 ||| third.toUInt32
    refine ⟨[alphabetAt (triple >>> 18), alphabetAt (triple >>> 12), alphabetAt (triple >>> 6),
      alphabetAt triple] ++ body, padding, ?_, ?_, encoded.few, ?_, ?_⟩
    · rw [base64Encode, encoded.whole]
      rfl
    · intro character member
      simp only [mem_append, mem_cons, not_mem_nil, or_false] at member
      rcases member with (rfl | rfl | rfl | rfl) | member
      iterate 4 exact alphabetAt_mem _
      exact encoded.alphabet character member
    · have groups := encoded.groups
      rw [length_append]
      change (4 + body.length + padding) % 4 = 0
      omega
    · intro state idle
      obtain ⟨group, read, bits, out⟩ := decode_four idle (toNat_triple first second third) small
      obtain ⟨next, readMore, outMore, clear⟩ := encoded.decodes group bits
      refine ⟨next, ?_, ?_, clear⟩
      · rw [foldlM_append, read]
        exact readMore
      · rw [outMore, out, high, middle, low, append_assoc]
        rfl
  | case2 first second =>
    obtain ⟨small, high, middle, -⟩ := ofNat_triple first second 0
    have value := toNat_triple first second 0
    rw [show (0 : UInt8).toUInt32 = 0 from rfl, UInt32.or_zero] at value
    let triple := first.toUInt32 <<< 16 ||| second.toUInt32 <<< 8
    refine ⟨[alphabetAt (triple >>> 18), alphabetAt (triple >>> 12), alphabetAt (triple >>> 6)], 1,
      rfl, ?_, by decide, by simp, ?_⟩
    · intro character member
      simp only [mem_cons, not_mem_nil, or_false] at member
      rcases member with rfl | rfl | rfl
      all_goals exact alphabetAt_mem _
    · intro state idle
      obtain ⟨next, read, bits, out, pending⟩ := decode_three idle value small
      refine ⟨next, read, ?_, ?_, Or.inr (Or.inl bits)⟩
      · rw [out, high, middle]
      · rw [pending, show (0 : UInt8).toNat = 0 from rfl]
        omega
  | case3 first =>
    obtain ⟨small, high, -, -⟩ := ofNat_triple first 0 0
    have value := toNat_triple first 0 0
    rw [show (0 : UInt8).toUInt32 = 0 from rfl, UInt32.or_zero, UInt32.zero_shiftLeft,
      UInt32.or_zero] at value
    let triple := first.toUInt32 <<< 16
    refine ⟨[alphabetAt (triple >>> 18), alphabetAt (triple >>> 12)], 2, rfl, ?_, by decide,
      by simp, ?_⟩
    · intro character member
      simp only [mem_cons, not_mem_nil, or_false] at member
      rcases member with rfl | rfl
      all_goals exact alphabetAt_mem _
    · intro state idle
      obtain ⟨next, read, bits, out, pending⟩ := decode_two idle value small
      refine ⟨next, read, ?_, ?_, Or.inr (Or.inr bits)⟩
      · rw [out, high]
      · rw [pending, show (0 : UInt8).toNat = 0 from rfl]
        omega
  | case4 =>
    refine ⟨[], 0, rfl, fun _ member => absurd member not_mem_nil, by decide, rfl, ?_⟩
    intro state idle
    refine ⟨state, rfl, (append_nil _).symm, ?_, Or.inl idle⟩
    unfold DecodeState.pending
    rw [idle]
    exact Nat.mod_one _

theorem mem_base64Encode {data : Bytes} {byte : UInt8} (member : byte ∈ base64Encode data) :
    byte ∈ kAlphabet ++ [61] := by
  obtain ⟨body, padding, encoded⟩ := exists_encoded data
  rw [encoded.whole] at member
  rcases mem_append.mp member with inside | padded
  · exact mem_append_left _ (encoded.alphabet byte inside)
  · rw [eq_of_mem_replicate padded]
    exact mem_append_right _ mem_cons_self

section Encodings

variable {data body : Bytes} {padding : Nat}

theorem Encoded.rdropWhile (encoded : Encoded data body padding) (count : Nat) :
    (body ++ List.replicate count 61).rdropWhile (· == 61) = body := by
  rw [rdropWhile_append_of_all body, rdropWhile_eq_self_iff]
  · intro nonempty padded
    have member := encoded.alphabet _ (getLast_mem nonempty)
    rw [beq_iff_eq.mp padded] at member
    exact absurd member (by decide)
  · simp

/-- The padding may be left out. -/
theorem Encoded.decode (encoded : Encoded data body padding) {count : Nat}
    (all : count = 0 ∨ count = padding) :
    base64Decode (body ++ List.replicate count 61) = some data := by
  obtain ⟨next, read, out, pending, bits⟩ := encoded.decodes {} rfl
  have few := encoded.few
  have groups := encoded.groups
  have clear : next.accumulator &&& (1 <<< UInt32.ofNat next.bits - 1) = 0 := by
    unfold DecodeState.pending at pending
    rw [← UInt32.toNat_inj, UInt32.toNat_and]
    rcases bits with bits | bits | bits
    all_goals rw [bits] at pending ⊢
    · simp
    · exact (Nat.and_two_pow_sub_one_eq_mod _ 2).trans pending
    · exact (Nat.and_two_pow_sub_one_eq_mod _ 4).trans pending
  unfold base64Decode
  dsimp only
  rw [encoded.rdropWhile, length_append, length_replicate, if_neg (by omega), read]
  dsimp only
  rw [if_neg (not_not.mpr clear), out]
  rfl

end Encodings

theorem base64Decode_encode (data : Bytes) : base64Decode (base64Encode data) = some data := by
  obtain ⟨body, padding, encoded⟩ := exists_encoded data
  rw [encoded.whole]
  exact encoded.decode (Or.inr rfl)

/-! ### Nothing else is decoded -/

/-- Bytes as digits of a number. -/
def bytesNumber (bytes : Bytes) : Nat :=
  bytes.foldl (fun number byte => number * 256 + byte.toNat) 0

/-- The number that the bits read so far spell. -/
def DecodeState.number (state : DecodeState) : Nat :=
  bytesNumber state.out * 2 ^ state.bits + state.pending

/-- What the bits of a decoder can be. -/
def DecodeState.Paired (state : DecodeState) : Prop :=
  state.bits = 0 ∨ state.bits = 2 ∨ state.bits = 4 ∨ state.bits = 6

theorem valueOf_eq_some {character : UInt8} {value : UInt32}
    (known : valueOf character = some value) :
    character = alphabetAt value ∧ value.toNat < 64 := by
  have every : ∀ code < 256, (valueOf (UInt8.ofNat code)).all (fun value =>
      decide (UInt8.ofNat code = alphabetAt value ∧ value.toNat < 64)) = true := by
    decide +kernel
  have holds := every character.toNat character.toNat_lt
  rw [UInt8.ofNat_toNat, known] at holds
  exact of_decide_eq_true holds

/-- Each character is one more digit to the base 64. -/
theorem decodeCharacter_number {state next : DecodeState} {character : UInt8}
    (paired : state.Paired) (read : decodeCharacter state character = some next) :
    next.Paired ∧ next.bits + 8 * next.out.length = state.bits + 8 * state.out.length + 6 ∧
      ∃ value, valueOf character = some value ∧
        next.number = state.number * 64 + value.toNat := by
  obtain ⟨value, known⟩ : ∃ value, valueOf character = some value := by
    unfold decodeCharacter at read
    cases known : valueOf character with
    | none =>
      rw [known] at read
      exact absurd read nofun
    | some value => exact ⟨value, rfl⟩
  obtain ⟨rfl, small⟩ := valueOf_eq_some known
  have pendingLt : state.pending < 2 ^ state.bits := Nat.mod_lt _ (Nat.two_pow_pos _)
  rcases paired with idle | waiting
  · obtain ⟨after, same, bits, out, pending⟩ := decodeCharacter_first state value idle
    obtain rfl := Option.some.inj (same.symm.trans read)
    refine ⟨Or.inr (Or.inr (Or.inr bits)), by rw [bits, out, idle]; omega, value, known, ?_⟩
    unfold DecodeState.number
    rw [idle] at pendingLt ⊢
    rw [out, bits, pending, Nat.mod_eq_of_lt small]
    omega
  · obtain ⟨after, same, bits, out, pending⟩ := decodeCharacter_next state value waiting
    obtain rfl := Option.some.inj (same.symm.trans read)
    refine ⟨?_, ?_, value, known, ?_⟩
    · unfold DecodeState.Paired
      omega
    · rw [bits, out, length_append, length_singleton]
      omega
    · unfold DecodeState.number bytesNumber
      rw [out, foldl_append, foldl_cons, foldl_nil, bits, pending, Nat.mod_eq_of_lt small,
        UInt8.toNat_ofNat']
      rcases waiting with bits | bits | bits
      all_goals
        rw [bits] at pendingLt ⊢
        omega

theorem exists_of_decode_concat {body : Bytes} {character : UInt8} {state : DecodeState}
    (read : (body ++ [character]).foldlM decodeCharacter {} = some state) :
    ∃ middle, body.foldlM decodeCharacter {} = some middle ∧
      decodeCharacter middle character = some state := by
  rw [foldlM_append, Option.bind_eq_bind, Option.bind_eq_some_iff] at read
  obtain ⟨middle, before, last⟩ := read
  rw [foldlM_cons, Option.bind_eq_bind, Option.bind_eq_some_iff] at last
  obtain ⟨after, last, same⟩ := last
  exact ⟨middle, before, Option.some.inj same ▸ last⟩

theorem decode_number {body : Bytes} {state : DecodeState}
    (read : body.foldlM decodeCharacter {} = some state) :
    state.Paired ∧ state.bits + 8 * state.out.length = 6 * body.length := by
  induction body using List.reverseRecOn generalizing state with
  | nil =>
    obtain rfl := Option.some.inj read
    exact ⟨Or.inl rfl, rfl⟩
  | append_singleton body character hypothesis =>
    obtain ⟨middle, before, last⟩ := exists_of_decode_concat read
    obtain ⟨paired, count⟩ := hypothesis before
    obtain ⟨next, more, -⟩ := decodeCharacter_number paired last
    refine ⟨next, ?_⟩
    rw [length_append, length_singleton]
    omega

/-- Texts of one length that spell the same number are the same. -/
theorem decode_injective {first second : Bytes} (length : first.length = second.length)
    {one two : DecodeState} (readFirst : first.foldlM decodeCharacter {} = some one)
    (readSecond : second.foldlM decodeCharacter {} = some two) (same : one.number = two.number) :
    first = second := by
  induction first using List.reverseRecOn generalizing second one two with
  | nil => exact (length_eq_zero_iff.mp length.symm).symm
  | append_singleton first character hypothesis =>
    obtain rfl | ⟨second, other, rfl⟩ := eq_nil_or_concat' second
    · simp at length
    obtain ⟨firstMiddle, firstBefore, firstLast⟩ := exists_of_decode_concat readFirst
    obtain ⟨secondMiddle, secondBefore, secondLast⟩ := exists_of_decode_concat readSecond
    obtain ⟨-, -, value, known, number⟩ :=
      decodeCharacter_number (decode_number firstBefore).1 firstLast
    obtain ⟨-, -, otherValue, otherKnown, otherNumber⟩ :=
      decodeCharacter_number (decode_number secondBefore).1 secondLast
    obtain ⟨digit, small⟩ := valueOf_eq_some known
    obtain ⟨otherDigit, otherSmall⟩ := valueOf_eq_some otherKnown
    rw [number, otherNumber] at same
    have digits : value = otherValue := UInt32.toNat_inj.mp (by omega)
    rw [length_append, length_append] at length
    rw [hypothesis (by simpa using length) firstBefore secondBefore (by omega), digit, otherDigit,
      digits]

theorem eq_append_padding (text : Bytes) :
    ∃ count, text = text.rdropWhile (· == 61) ++ List.replicate count 61 := by
  induction text using List.reverseRecOn with
  | nil => exact ⟨0, rfl⟩
  | append_singleton text character hypothesis =>
    rw [rdropWhile_concat]
    split
    next pad =>
      obtain ⟨count, same⟩ := hypothesis
      refine ⟨count + 1, ?_⟩
      rw [replicate_succ', ← append_assoc, ← same, beq_iff_eq.mp pad]
    · exact ⟨0, (append_nil _).symm⟩

theorem exists_of_decoded {text data : Bytes} (decoded : base64Decode text = some data) :
    let body := text.rdropWhile (· == 61)
    let padding := text.length - body.length
    ¬ (body.length % 4 = 1 ∨ padding > 2 ∨ (padding > 0 ∧ (body.length + padding) % 4 ≠ 0)) ∧
      ∃ state, body.foldlM decodeCharacter {} = some state ∧ state.pending = 0 ∧
        state.out = data := by
  unfold base64Decode at decoded
  dsimp only at decoded ⊢
  split at decoded
  · exact absurd decoded nofun
  next fits =>
    refine ⟨fits, ?_⟩
    split at decoded
    · exact absurd decoded nofun
    next state read =>
      split at decoded
      · exact absurd decoded nofun
      next clear =>
        refine ⟨state, read, ?_, Option.some.inj decoded⟩
        have nothing := UInt32.toNat_inj.mpr (not_not.mp clear)
        rw [UInt32.toNat_and] at nothing
        unfold DecodeState.pending
        rcases (decode_number read).1 with bits | bits | bits | bits
        all_goals rw [bits] at nothing ⊢
        · exact Nat.mod_one _
        · exact (Nat.and_two_pow_sub_one_eq_mod _ 2).symm.trans nothing
        · exact (Nat.and_two_pow_sub_one_eq_mod _ 4).symm.trans nothing
        · exact (Nat.and_two_pow_sub_one_eq_mod _ 6).symm.trans nothing

/-- A text is decoded to data exactly when it is the encoding of it, with all of its padding or with
none. -/
theorem base64Decode_eq_some_iff :
    (∀ data, base64Decode (base64Encode data) = some data) ∧
      ∀ text data, base64Decode text = some data ↔
        text = base64Encode data ∨ text = (base64Encode data).rdropWhile (· == 61) := by
  refine ⟨base64Decode_encode, fun text data => ?_⟩
  obtain ⟨body, padding, encoded⟩ := exists_encoded data
  have stripped := encoded.rdropWhile padding
  rw [encoded.whole, stripped]
  refine ⟨fun decoded => ?_, ?_⟩
  · obtain ⟨count, split⟩ := eq_append_padding text
    obtain ⟨fits, state, read, clear, rfl⟩ := exists_of_decoded decoded
    generalize text.rdropWhile (· == 61) = front at split fits read
    obtain rfl := split
    obtain ⟨next, known, out, pending, places⟩ := encoded.decodes {} rfl
    obtain ⟨paired, length⟩ := decode_number read
    have sameLength := (decode_number known).2
    rw [length_append, length_replicate] at fits
    rw [out, nil_append] at sameLength
    -- Both texts have as many characters as the data has sextets, and no bit is left over.
    unfold DecodeState.Paired at paired
    have bits : state.bits = next.bits ∧ front.length = body.length := by omega
    have number : state.number = next.number := by
      unfold DecodeState.number
      rw [out, pending, clear, bits.1]
      rfl
    obtain rfl := decode_injective bits.2 read known number
    have few := encoded.few
    have groups := encoded.groups
    obtain rfl | rfl : count = 0 ∨ count = padding := by omega
    · exact Or.inr (append_nil _)
    · exact Or.inl rfl
  · rintro (rfl | rfl)
    · exact encoded.decode (Or.inr rfl)
    · have bare := encoded.decode (Or.inl rfl)
      rwa [replicate_zero, append_nil] at bare

end KetPhone.Sip
