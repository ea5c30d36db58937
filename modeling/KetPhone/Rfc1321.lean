/-
This file states MD5 as RFC 1321 does and proves that `md5_hex` computes it.

The RFC pads the message and works on blocks of sixteen words; each of four rounds
applies its function sixteen times, and each operation writes one of the four
registers in turn. The code turns the registers instead, so that four of its
operations are four of the RFC. It also never builds the padded message: the whole
blocks are read where they are, and only what is left is copied and padded.
-/

import KetPhone.Md5
import KetPhone.Rtp
import KetPhone.Sines

namespace KetPhone.Sip

open List

/-! ### The RFC -/

namespace Rfc1321

/-- The word shifted circularly to the left. -/
def circularShift (value : UInt32) (places : Nat) : UInt32 := ⟨value.toBitVec.rotateLeft places⟩

/-- `T[i]`, the integer part of 4294967296 times `abs(sin(i))`. -/
noncomputable def sineConstant (number : Nat) : UInt32 :=
  UInt32.ofNat ⌊((4294967296 : Nat) : ℝ) * |Real.sin number|⌋₊

/-- A round: its function, and the word and the shift of each operation. -/
structure Round where
  mix : UInt32 → UInt32 → UInt32 → UInt32
  words : List Nat
  shifts : List Nat

def rounds : List Round :=
  [{ mix := fun x y z => (x &&& y) ||| (~~~x &&& z)
     words := [0, 1, 2, 3, 4, 5, 6, 7, 8, 9, 10, 11, 12, 13, 14, 15]
     shifts := [7, 12, 17, 22] },
   { mix := fun x y z => (x &&& z) ||| (y &&& ~~~z)
     words := [1, 6, 11, 0, 5, 10, 15, 4, 9, 14, 3, 8, 13, 2, 7, 12]
     shifts := [5, 9, 14, 20] },
   { mix := fun x y z => x ^^^ y ^^^ z
     words := [5, 8, 11, 14, 1, 4, 7, 10, 13, 0, 3, 6, 9, 12, 15, 2]
     shifts := [4, 11, 16, 23] },
   { mix := fun x y z => y ^^^ (x ||| ~~~z)
     words := [0, 7, 14, 5, 12, 3, 10, 1, 8, 15, 6, 13, 4, 11, 2, 9]
     shifts := [6, 10, 15, 21] }]

/-- The round with this number, from 0. -/
def roundAt (number : Nat) : Round := rounds.getD number ⟨fun _ _ _ => 0, [], []⟩

/-- `X[j]`, the word of a block with its low-order byte first. -/
def word (block : Bytes) (index : Nat) : UInt32 :=
  let byte (offset : Nat) : Nat := (block.getD (4 * index + offset) 0).toNat
  UInt32.ofNat (byte 0 + 2 ^ 8 * byte 1 + 2 ^ 16 * byte 2 + 2 ^ 24 * byte 3)

/-- `[abcd k s i]`: what becomes of `a` in an operation of a round. -/
noncomputable def operation (block : Bytes) (round index : Nat) (a b c d : UInt32) : UInt32 :=
  b + circularShift
    (a + (roundAt round).mix b c d + word block ((roundAt round).words.getD index 0) +
      sineConstant (16 * round + index + 1))
    ((roundAt round).shifts.getD (index % 4) 0)

/-- The operations `[ABCD]`, `[DABC]`, `[CDAB]` and `[BCDA]` of a round. -/
noncomputable def operations (block : Bytes) (round : Nat) (state : Md5State) (group : Nat) :
    Md5State :=
  let a := operation block round (4 * group) state.a state.b state.c state.d
  let d := operation block round (4 * group + 1) state.d a state.b state.c
  let c := operation block round (4 * group + 2) state.c d a state.b
  let b := operation block round (4 * group + 3) state.b c d a
  { a, b, c, d }

/-- Four rounds of sixteen operations, and the registers added to what they were before. -/
noncomputable def compress (state : Md5State) (block : Bytes) : Md5State :=
  let mixed := (List.range 4).foldl
    (fun state round => (List.range 4).foldl (operations block round) state) state
  { a := state.a + mixed.a, b := state.b + mixed.b, c := state.c + mixed.c, d := state.d + mixed.d }

/-- A single 1 bit, zeros up to 56 modulo 64, and the length in bits. -/
def padded (message : Bytes) : Bytes :=
  message ++ 0x80 :: List.replicate ((119 - message.length % 64) % 64) 0 ++
    (List.range 8).map fun index => UInt8.ofNat (8 * message.length / 256 ^ index)

noncomputable def digest (message : Bytes) : Md5State :=
  (List.range ((padded message).length / 64)).foldl
    (fun state block => compress state (((padded message).drop (64 * block)).take 64))
    { a := 0x67452301, b := 0xefcdab89, c := 0x98badcfe, d := 0x10325476 }

/-- A register, low-order byte first, in two lowercase digits for each byte. -/
def hexRegister (register : UInt32) : Bytes :=
  (List.range 4).flatMap fun index =>
    let byte := register.toNat / 256 ^ index % 256
    [(ascii "0123456789abcdef").getD (byte / 16) 0, (ascii "0123456789abcdef").getD (byte % 16) 0]

noncomputable def md5 (message : Bytes) : Bytes :=
  hexRegister (digest message).a ++ hexRegister (digest message).b ++
    hexRegister (digest message).c ++ hexRegister (digest message).d

end Rfc1321

open Rfc1321

/-! ### Operations -/

theorem rotateLeft_eq (value : UInt32) {places : Nat} (positive : 0 < places) (few : places < 32) :
    rotateLeft value (UInt32.ofNat places) = circularShift value places := by
  have left : (UInt32.ofNat places).toNat = places := UInt32.toNat_ofNat_of_lt' (by
    change places < 4294967296
    omega)
  have right : (32 - UInt32.ofNat places).toNat = 32 - places := by
    rw [UInt32.toNat_sub_of_le]
    · rw [left]
      rfl
    · rw [UInt32.le_iff_toNat_le, left]
      exact few.le
  apply UInt32.toNat_inj.mp
  unfold rotateLeft circularShift
  rw [UInt32.toNat_or, UInt32.toNat_shiftLeft, UInt32.toNat_shiftRight, left, right]
  show _ = (value.toBitVec.rotateLeft places).toNat
  rw [BitVec.toNat_rotateLeft, Nat.mod_eq_of_lt few,
    Nat.mod_eq_of_lt (show 32 - places < 32 by omega)]
  rfl

theorem kSine_eq : ∀ index < 64, kSine.getD index 0 = sineConstant (index + 1) := by
  have whole : ∀ index < 64,
      ((kSine.getD index 0).toNat * 10 ^ 18 + 4294967296 * (index + 1)) * sineScale ^ (index + 1) ≤
        4294967296 * 10 ^ 18 * (nearPower (index + 1)).2.natAbs ∧
      4294967296 * 10 ^ 18 * (nearPower (index + 1)).2.natAbs +
          4294967296 * (index + 1) * sineScale ^ (index + 1) <
        ((kSine.getD index 0).toNat + 1) * 10 ^ 18 * sineScale ^ (index + 1) := by
    decide +kernel
  intro index small
  obtain ⟨low, high⟩ := whole index small
  unfold sineConstant
  rw [floor_sin low high, UInt32.ofNat_toNat]

theorem or_turned (first second third fourth : UInt32) :
    first ||| second ||| third ||| fourth = fourth ||| third ||| second ||| first := by
  ac_rfl

theorem blockWord_eq (block : Bytes) (index : Nat) : blockWord block index = word block index := by
  unfold blockWord word
  rw [Nat.mul_comm index 4]
  dsimp only [Nat.add_zero]
  generalize block.getD (4 * index) 0 = first
  generalize block.getD (4 * index + 1) 0 = second
  generalize block.getD (4 * index + 2) 0 = third
  generalize block.getD (4 * index + 3) 0 = fourth
  apply UInt32.toNat_inj.mp
  have bounds : first.toNat < 2 ^ 8 ∧ second.toNat < 2 ^ 8 ∧ third.toNat < 2 ^ 8 ∧
      fourth.toNat < 2 ^ 8 := ⟨first.toNat_lt, second.toNat_lt, third.toNat_lt, fourth.toNat_lt⟩
  rw [or_turned, Media.toNat_quad, UInt32.toNat_ofNat_of_lt' (by change _ < 4294967296; omega)]
  omega

theorem add_turned (sum first second : UInt32) : sum + first + second = sum + second + first := by
  rw [UInt32.add_assoc, UInt32.add_comm first, UInt32.add_assoc]

/-- An operation of the code writes the register that it then turns to the second place. -/
theorem transformRound_eq (block : Bytes) (state : Md5State) {round index : Nat} (four : round < 4)
    (sixteen : index < 16) :
    transformRound block state (16 * round + index) =
      { a := state.d, b := operation block round index state.a state.b state.c state.d,
        c := state.b, d := state.c } := by
  have constant := kSine_eq (16 * round + index) (by omega)
  have shift : ∀ round < 4, ∀ index < 16, ∃ places, 0 < places ∧ places < 32 ∧
      (roundAt round).shifts.getD (index % 4) 0 = places ∧
      kShift.getD (16 * round + index) 0 = UInt32.ofNat places := by
    intro round four index sixteen
    refine ⟨_, ?_, ?_, rfl, ?_⟩
    all_goals
      revert index
      revert round
      decide
  obtain ⟨places, positive, few, shifts, turns⟩ := shift round four index sixteen
  unfold transformRound operation
  rw [shifts, ← rotateLeft_eq _ positive few, turns, ← constant]
  have words : ∀ index < 16, index = (roundAt 0).words.getD index 0 ∧
      (5 * (16 * 1 + index) + 1) % 16 = (roundAt 1).words.getD index 0 ∧
      (3 * (16 * 2 + index) + 5) % 16 = (roundAt 2).words.getD index 0 ∧
      7 * (16 * 3 + index) % 16 = (roundAt 3).words.getD index 0 := by decide
  obtain ⟨first, second, third, fourth⟩ := words index sixteen
  obtain rfl | rfl | rfl | rfl : round = 0 ∨ round = 1 ∨ round = 2 ∨ round = 3 := by omega
  · rw [if_pos (by omega), ← first]
    dsimp only
    rw [blockWord_eq, Nat.mul_zero, Nat.zero_add, add_turned]
    rfl
  · rw [if_neg (by omega), if_pos (by omega), ← second]
    dsimp only
    rw [blockWord_eq, add_turned, UInt32.and_comm state.d, UInt32.and_comm (~~~state.d)]
    rfl
  · rw [if_neg (by omega), if_neg (by omega), if_pos (by omega), ← third]
    dsimp only
    rw [blockWord_eq, add_turned]
    rfl
  · rw [if_neg (by omega), if_neg (by omega), if_neg (by omega), ← fourth]
    dsimp only
    rw [blockWord_eq, add_turned]
    rfl

/-! ### Loops -/

section Loops

variable {State : Type} (next : State → Nat → State)

theorem foldl_range_add (first second : Nat) (state : State) :
    (List.range (first + second)).foldl next state =
      (List.range second).foldl (fun state index => next state (first + index))
        ((List.range first).foldl next state) := by
  rw [range_add, foldl_append, foldl_map]

theorem foldl_range_mul (outer inner : Nat) (state : State) :
    (List.range (outer * inner)).foldl next state =
      (List.range outer).foldl (fun state index =>
        (List.range inner).foldl (fun state place => next state (inner * index + place)) state)
          state := by
  induction outer generalizing state with
  | zero => simp
  | succ outer hypothesis =>
    rw [Nat.succ_mul, foldl_range_add, hypothesis, range_succ, foldl_append, foldl_cons, foldl_nil,
      Nat.mul_comm outer]

theorem foldl_range_congr {first second : State → Nat → State} {count : Nat}
    (same : ∀ state, ∀ index < count, first state index = second state index) (state : State) :
    (List.range count).foldl first state = (List.range count).foldl second state := by
  refine foldl_ext _ _ _ fun other index member => same other index ?_
  exact mem_range.mp member

end Loops

theorem four_transformRounds (block : Bytes) (state : Md5State) {round group : Nat}
    (fourRounds : round < 4) (fourGroups : group < 4) :
    (List.range 4).foldl
        (fun state place => transformRound block state (16 * round + (4 * group + place))) state =
      operations block round state group := by
  show transformRound block (transformRound block (transformRound block
    (transformRound block state (16 * round + (4 * group + 0))) (16 * round + (4 * group + 1)))
    (16 * round + (4 * group + 2))) (16 * round + (4 * group + 3)) = _
  iterate 4 rw [transformRound_eq block _ fourRounds (by omega)]
  rfl

theorem transform_eq (state : Md5State) (block : Bytes) :
    transform state block = compress state block := by
  have mixed : (List.range 64).foldl (transformRound block) state =
      (List.range 4).foldl
        (fun state round => (List.range 4).foldl (operations block round) state) state := by
    rw [foldl_range_mul _ 4 16]
    refine foldl_range_congr (fun state round fourRounds => ?_) state
    rw [foldl_range_mul _ 4 4]
    exact foldl_range_congr (fun state group fourGroups =>
      four_transformRounds block state fourRounds fourGroups) state
  unfold transform compress
  rw [mixed]

/-! ### Blocks -/

/-- Only the first 64 bytes are read. -/
theorem compress_congr {first second : Bytes}
    (same : ∀ place < 64, first.getD place 0 = second.getD place 0) (state : Md5State) :
    compress state first = compress state second := by
  have words : ∀ index < 16, word first index = word second index := by
    intro index sixteen
    unfold word
    dsimp only
    rw [same _ (by omega), same _ (by omega), same _ (by omega), same _ (by omega)]
  have wordsAt : ∀ round index,
      word first ((roundAt round).words.getD index 0) =
        word second ((roundAt round).words.getD index 0) := by
    intro round index
    have every : ∀ round : Round, round ∈ rounds → ∀ index, round.words.getD index 0 < 16 := by
      intro round member index
      rw [getD_eq_getElem?_getD]
      cases found : round.words[index]? with
      | none => exact Nat.zero_lt_succ _
      | some value =>
        have inside : ∀ round ∈ rounds, ∀ value ∈ round.words, value < 16 := by decide
        exact inside round member value (mem_of_getElem? found)
    apply words
    unfold roundAt
    rw [show rounds.getD round _ = rounds[round]?.getD _ from getD_eq_getElem?_getD]
    cases found : rounds[round]? with
    | none => exact Nat.zero_lt_succ _
    | some known => exact every known (mem_of_getElem? found) index
  have all : operations first = operations second := by
    funext round state group
    unfold operations operation
    simp only [wordsAt]
  unfold compress
  rw [all]

theorem getD_block {message : Bytes} {start place : Nat} (inside : place < 64) :
    ((message.drop start).take 64).getD place 0 = message.getD (start + place) 0 := by
  rw [getD_eq_getElem?_getD, getD_eq_getElem?_getD, getElem?_take_of_lt inside, getElem?_drop]

theorem lengthByte_eq {length index : Nat} (short : length < 2 ^ 61) (place : index < 8) :
    ((UInt64.ofNat length * 8) >>> UInt64.ofNat (8 * index)).toUInt8 =
      UInt8.ofNat (8 * length / 256 ^ index) := by
  have shift : (UInt64.ofNat (8 * index)).toNat % 64 = 8 * index := by
    rw [UInt64.toNat_ofNat_of_lt' (by change _ < 18446744073709551616; omega)]
    omega
  have bits : (UInt64.ofNat length * 8).toNat = 8 * length := by
    rw [UInt64.toNat_mul, UInt64.toNat_ofNat_of_lt' (by change _ < 18446744073709551616; omega)]
    change length * 8 % 18446744073709551616 = _
    omega
  apply UInt8.toNat_inj.mp
  rw [UInt64.toNat_toUInt8, UInt64.toNat_shiftRight, shift, bits, Nat.shiftRight_eq_div_pow,
    Nat.pow_mul, UInt8.toNat_ofNat']

/-- The padded message is its whole blocks and the tail that the code builds. -/
theorem padded_eq {message : Bytes} (short : message.length < 2 ^ 61) :
    padded message = message.take (64 * (message.length / 64)) ++ md5Tail message := by
  have rest : (message.drop (message.length / 64 * 64)).length = message.length % 64 := by
    rw [length_drop]
    omega
  have zeros : (if message.length % 64 < 56 then 64 else 128) - 9 - message.length % 64 =
      (119 - message.length % 64) % 64 := by
    split <;> omega
  have bytes : ((List.range 8).map fun index =>
      ((UInt64.ofNat message.length * 8) >>> UInt64.ofNat (8 * index)).toUInt8) =
      (List.range 8).map fun index => UInt8.ofNat (8 * message.length / 256 ^ index) :=
    map_congr_left fun index member => lengthByte_eq short (mem_range.mp member)
  unfold padded md5Tail
  dsimp only
  rw [rest, zeros, bytes, Nat.mul_comm (message.length / 64), ← append_assoc, ← append_assoc,
    take_append_drop]

theorem hexWord_eq (word : UInt32) : hexWord word = hexRegister word := by
  unfold hexWord hexRegister
  refine congrArg List.flatten (map_congr_left fun index member => ?_)
  have small := mem_range.mp member
  have shift : (UInt32.ofNat (8 * index)).toNat % 32 = 8 * index := by
    rw [UInt32.toNat_ofNat_of_lt' (by change _ < 4294967296; omega)]
    omega
  have byte : (word >>> UInt32.ofNat (8 * index)).toUInt8.toNat =
      word.toNat / 256 ^ index % 256 := by
    rw [UInt32.toNat_toUInt8, UInt32.toNat_shiftRight, shift, Nat.shiftRight_eq_div_pow,
      Nat.pow_mul]
  unfold hexByte kHex
  rw [UInt8.toNat_shiftRight, UInt8.toNat_and, byte]
  dsimp only
  have high : (word.toNat / 256 ^ index % 256) >>> (UInt8.toNat 4 % 8) =
    word.toNat / 256 ^ index % 256 / 16 := Nat.shiftRight_eq_div_pow _ 4
  have low : word.toNat / 256 ^ index % 256 &&& UInt8.toNat 15 =
    word.toNat / 256 ^ index % 256 % 16 := Nat.and_two_pow_sub_one_eq_mod _ 4
  rw [high, low]

/-- The hash is that of RFC 1321, for every message whose length in bits is a 64-bit number. -/
theorem md5Hex_eq_md5 (message : Bytes) (short : message.length < 2 ^ 61) :
    md5Hex message = Rfc1321.md5 message := by
  let start : Md5State := { a := 0x67452301, b := 0xefcdab89, c := 0x98badcfe, d := 0x10325476 }
  have front : (message.take (64 * (message.length / 64))).length = 64 * (message.length / 64) := by
    rw [length_take]
    omega
  have blocks : (padded message).length / 64 =
      message.length / 64 + (md5Tail message).length / 64 := by
    rw [padded_eq short, length_append, front]
    omega
  have digests : digest message = transformBlocks
      (transformBlocks start message (message.length / 64)) (md5Tail message)
      ((md5Tail message).length / 64) := by
    unfold digest transformBlocks
    rw [blocks, foldl_range_add]
    have whole : (List.range (message.length / 64)).foldl (fun state block =>
        compress state (((padded message).drop (64 * block)).take 64)) start =
        (List.range (message.length / 64)).foldl (fun state block =>
          transform state (message.drop (64 * block))) start := by
      refine foldl_range_congr (fun state block inside => ?_) start
      rw [transform_eq]
      refine compress_congr (fun place few => ?_) state
      rw [getD_block few, getD_eq_getElem?_getD, getD_eq_getElem?_getD, getElem?_drop]
      unfold padded
      rw [append_assoc, getElem?_append_left (by omega)]
    rw [whole]
    refine foldl_range_congr (fun state block inside => ?_) _
    rw [transform_eq]
    refine compress_congr (fun place few => ?_) state
    rw [getD_block few, getD_eq_getElem?_getD, getD_eq_getElem?_getD, getElem?_drop,
      padded_eq short,
      getElem?_append_right (by omega), front]
    congr 2
    omega
  unfold md5Hex Rfc1321.md5
  dsimp only
  rw [digests, hexWord_eq, hexWord_eq, hexWord_eq, hexWord_eq]

theorem md5Hex_eq_md5_abc :
    (ascii "abc").length < 2 ^ 61 ∧ md5Hex (ascii "abc") = Rfc1321.md5 (ascii "abc") :=
  ⟨by decide, md5Hex_eq_md5 _ (by decide)⟩

end KetPhone.Sip
