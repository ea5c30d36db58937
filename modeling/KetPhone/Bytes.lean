/-
This file holds the byte strings every text of the development is made of, and
the operations of `std::string_view` that the sources use on them. A position
is an index or `none`, which stands for `npos`.
-/

import Mathlib.Algebra.Group.Int.Defs
import Mathlib.Algebra.Group.Nat.Defs
import Mathlib.Data.List.Basic
import Mathlib.Data.List.DropRight
import Mathlib.Tactic.Common

namespace KetPhone

open List

variable {byte : UInt8} {drop : UInt8 → Bool} {number width : Nat}

/-- A `std::string` or `std::string_view`: any bytes. -/
abbrev Bytes := List UInt8

/-- A string literal of the sources. -/
def ascii (text : String) : Bytes := text.toByteArray.data.toList

/-! ### Searching -/

/-- `find` of one character. -/
def findByte (byte : UInt8) (text : Bytes) : Option Nat := text.findIdx? (· == byte)

/-- `find_first_of`. -/
def findFirstOf (set : Bytes) (text : Bytes) : Option Nat := text.findIdx? (set.contains ·)

/-- `rfind` of one character. -/
def findLastByte (byte : UInt8) (text : Bytes) : Option Nat :=
  (text.reverse.findIdx? (· == byte)).map fun back => text.length - 1 - back

/-- `find` of a text. -/
def findText (needle : Bytes) : Bytes → Option Nat
  | [] => if needle.isEmpty then some 0 else none
  | byte :: rest =>
    if needle.isPrefixOf (byte :: rest) then some 0 else (findText needle rest).map (· + 1)

/-- `substr(0, place)`: the whole text when the place is `npos`. -/
def upTo (place : Option Nat) (text : Bytes) : Bytes :=
  match place with
  | none => text
  | some index => text.take index

theorem findText_cons (needle : Bytes) (byte : UInt8) (rest : Bytes) :
    findText needle (byte :: rest) =
      if needle <+: byte :: rest then some 0 else (findText needle rest).map (· + 1) :=
  if_congr isPrefixOf_iff_prefix rfl rfl

theorem findByte_eq_none {text : Bytes} : findByte byte text = none ↔ byte ∉ text := by
  unfold findByte
  rw [List.findIdx?_eq_none_iff]
  constructor
  · intro absent member
    exact absurd (absent byte member) (by simp)
  · intro absent other member
    refine beq_eq_false_iff_ne.mpr fun equal => absent ?_
    rw [← equal]
    exact member

theorem findByte_append {line : Bytes} (absent : byte ∉ line) (rest : Bytes) :
    findByte byte (line ++ byte :: rest) = some line.length := by
  unfold findByte
  rw [List.findIdx?_append, List.findIdx?_cons]
  have unfound : line.findIdx? (· == byte) = none := findByte_eq_none.mpr absent
  simp [unfound]

theorem findByte_eq_some {text : Bytes} {place : Nat} (found : findByte byte text = some place) :
    ∃ front rest, text = front ++ byte :: rest ∧ front.length = place ∧ byte ∉ front := by
  unfold findByte at found
  obtain ⟨within, here, before⟩ := List.findIdx?_eq_some_iff_getElem.mp found
  refine ⟨text.take place, text.drop (place + 1), ?_, ?_, fun member => ?_⟩
  · rw [← eq_of_beq here, getElem_cons_drop, take_append_drop]
  · exact length_take_of_le within.le
  · obtain ⟨index, short, equal⟩ := getElem_of_mem member
    rw [length_take, Nat.lt_min] at short
    rw [getElem_take] at equal
    exact before index short.1 (beq_iff_eq.mpr equal)

theorem findFirstOf_append {set line : Bytes} (absent : ∀ other ∈ line, other ∉ set)
    (member : byte ∈ set) (rest : Bytes) :
    findFirstOf set (line ++ byte :: rest) = some line.length := by
  have unfound : line.findIdx? (set.contains ·) = none := by
    rw [List.findIdx?_eq_none_iff]
    exact fun other inside => by simpa using absent other inside
  unfold findFirstOf
  rw [List.findIdx?_append, List.findIdx?_cons, unfound]
  simp [member]

theorem findLastByte_append {rest : Bytes} (line : Bytes) (absent : byte ∉ rest) :
    findLastByte byte (line ++ byte :: rest) = some line.length := by
  unfold findLastByte
  have back : (line ++ byte :: rest).reverse = rest.reverse ++ byte :: line.reverse := by simp
  have absentBack : byte ∉ rest.reverse := by simpa using absent
  have found := findByte_append absentBack line.reverse
  unfold findByte at found
  rw [back, found, length_reverse, Option.map_some, length_append, length_cons]
  congr 1
  omega

/-! ### Cutting at a separator -/

/-- The pieces between separators; a separator at the very end opens no further piece. -/
def pieces (separator : UInt8) : Bytes → List Bytes
  | [] => []
  | byte :: rest =>
    if byte = separator then [] :: pieces separator rest
    else
      match pieces separator rest with
      | [] => [[byte]]
      | piece :: others => (byte :: piece) :: others

theorem pieces_append (separator : UInt8) (text rest : Bytes) :
    pieces separator (text ++ separator :: rest) =
      pieces separator (text ++ [separator]) ++ pieces separator rest := by
  induction text with
  | nil =>
    rw [nil_append, nil_append, pieces, if_pos rfl, pieces, if_pos rfl]
    rfl
  | cons byte text hypothesis =>
    rw [cons_append, cons_append, pieces, pieces, hypothesis]
    split
    · rfl
    · cases cut : pieces separator (text ++ [separator]) with
      | nil =>
        cases text with
        | nil =>
          rw [nil_append, pieces, if_pos rfl] at cut
          cases cut
        | cons head tail =>
          rw [cons_append, pieces] at cut
          split at cut
          · cases cut
          · split at cut <;> cases cut
      | cons piece others => rfl

theorem pieces_cons {separator : UInt8} {piece : Bytes} (absent : separator ∉ piece)
    (rest : Bytes) :
    pieces separator (piece ++ separator :: rest) = piece :: pieces separator rest := by
  induction piece with
  | nil => rw [nil_append, pieces, if_pos rfl]
  | cons byte piece hypothesis =>
    rw [mem_cons, not_or] at absent
    rw [cons_append, pieces, if_neg (Ne.symm absent.1), hypothesis absent.2]

theorem pieces_last {separator : UInt8} {piece : Bytes} (nonempty : piece ≠ [])
    (absent : separator ∉ piece) : pieces separator piece = [piece] := by
  induction piece with
  | nil => exact absurd rfl nonempty
  | cons byte piece hypothesis =>
    rw [mem_cons, not_or] at absent
    rw [pieces, if_neg (Ne.symm absent.1)]
    cases piece with
    | nil => rfl
    | cons next piece => rw [hypothesis (cons_ne_nil _ _) absent.2]

/-! ### Numbers -/

/-- `std::to_string` of an unsigned number. -/
def decimal (number : Nat) : Bytes :=
  (Nat.toDigits 10 number).map fun character => UInt8.ofNat character.toNat

/-- `std::to_string` of a signed number. -/
def decimalInt (number : Int) : Bytes :=
  if number < 0 then ascii "-" ++ decimal number.natAbs else decimal number.natAbs

def isDigit (byte : UInt8) : Bool := 48 ≤ byte && byte ≤ 57

/-- The number a text of digits stands for. -/
def digitsValue (digits : Bytes) : Nat :=
  digits.foldl (fun sum byte => 10 * sum + (byte.toNat - 48)) 0

/-- `std::from_chars` for an unsigned type of `width` bits that must consume the whole text. -/
def fromChars (width : Nat) (text : Bytes) : Option Nat :=
  if text ≠ [] ∧ text.all isDigit ∧ digitsValue text < 2 ^ width then some (digitsValue text)
  else none

/-- `std::from_chars` for `int`, which takes a leading minus. -/
def fromCharsInt (text : Bytes) : Option Int :=
  match text with
  | 45 :: digits =>
    if digits ≠ [] ∧ digits.all isDigit ∧ digitsValue digits ≤ 2 ^ 31 then
      some (-(digitsValue digits : Int))
    else none
  | digits => (fromChars 31 digits).map fun number => (number : Int)

theorem fromChars_eq_some {text : Bytes} (read : fromChars width text = some number) :
    text ≠ [] ∧ text.all isDigit = true ∧ digitsValue text = number := by
  unfold fromChars at read
  split at read
  · rename_i valid
    exact ⟨valid.1, valid.2.1, Option.some.inj read⟩
  · cases read

theorem fromChars_eq_none_of_mem {text : Bytes} (member : byte ∈ text)
    (foreign : isDigit byte = false) : fromChars width text = none := by
  unfold fromChars
  refine if_neg fun valid => ?_
  have digit := all_eq_true.mp valid.2.1 byte member
  rw [foreign] at digit
  cases digit

theorem toNat_code {character : Char} (digit : character.isDigit = true) :
    (UInt8.ofNat character.toNat).toNat = character.toNat ∧
      48 ≤ character.toNat ∧ character.toNat ≤ 57 := by
  have bounds : 48 ≤ character.toNat ∧ character.toNat ≤ 57 := by
    simpa [Char.isDigit, UInt32.le_iff_toNat_le] using digit
  rw [UInt8.toNat_ofNat', Nat.mod_eq_of_lt (by omega)]
  exact ⟨rfl, bounds⟩

theorem isDigit_of_toDigits {character : Char} (member : character ∈ Nat.toDigits 10 number) :
    character.isDigit = true :=
  Nat.isDigit_of_mem_toDigits (by decide) (by decide) member

theorem decimal_ne_nil (number : Nat) : decimal number ≠ [] := by
  unfold decimal
  rw [ne_eq, map_eq_nil_iff]
  exact Nat.toDigits_ne_nil

theorem isDigit_of_mem_decimal (member : byte ∈ decimal number) : isDigit byte = true := by
  obtain ⟨character, digit, rfl⟩ := mem_map.mp member
  obtain ⟨code, low, high⟩ := toNat_code (isDigit_of_toDigits digit)
  unfold isDigit
  rw [Bool.and_eq_true, decide_eq_true_eq, decide_eq_true_eq, UInt8.le_iff_toNat_le,
    UInt8.le_iff_toNat_le, code]
  exact ⟨low, high⟩

theorem digitsValue_map {characters : List Char}
    (digits : ∀ character ∈ characters, character.isDigit = true) :
    digitsValue (characters.map fun character => UInt8.ofNat character.toNat) =
      Nat.ofDigitChars 10 characters 0 := by
  unfold digitsValue Nat.ofDigitChars
  rw [foldl_map]
  generalize 0 = sum
  induction characters generalizing sum with
  | nil => rfl
  | cons character rest hypothesis =>
    rw [foldl_cons, foldl_cons, (toNat_code (digits character mem_cons_self)).1]
    exact hypothesis (fun other member => digits other (mem_cons_of_mem _ member)) _

theorem digitsValue_decimal (number : Nat) : digitsValue (decimal number) = number := by
  unfold decimal
  rw [digitsValue_map fun character member => isDigit_of_toDigits member]
  exact Nat.ofDigitChars_toDigits (by decide) (by decide)

theorem fromChars_decimal (fits : number < 2 ^ width) :
    fromChars width (decimal number) = some number := by
  unfold fromChars
  rw [digitsValue_decimal, if_pos]
  exact ⟨decimal_ne_nil number, all_eq_true.mpr fun _ member => isDigit_of_mem_decimal member,
    fits⟩

theorem decimal_injective : Function.Injective decimal :=
  Function.LeftInverse.injective digitsValue_decimal

theorem decimal_eq_zero_iff (number : Nat) : decimal number = ascii "0" ↔ number = 0 := by
  rw [show ascii "0" = decimal 0 by decide, decimal_injective.eq_iff]

/-! ### Trimming at the back -/

theorem rdropWhile_append_of_not (front : Bytes) {back : Bytes}
    (kept : ∃ byte ∈ back, drop byte = false) :
    (front ++ back).rdropWhile drop = front ++ back.rdropWhile drop := by
  induction back using List.reverseRecOn with
  | nil =>
    obtain ⟨byte, member, -⟩ := kept
    cases member
  | append_singleton rest last hypothesis =>
    rw [← append_assoc, rdropWhile_concat, rdropWhile_concat]
    split
    · rename_i dropped
      obtain ⟨byte, member, keep⟩ := kept
      rcases mem_append.mp member with inRest | isLast
      · exact hypothesis ⟨byte, inRest, keep⟩
      · rw [mem_singleton.mp isLast] at keep
        rw [keep] at dropped
        cases dropped
    · rw [append_assoc]

theorem rdropWhile_kept (front : Bytes) (kept : drop byte = false) (back : Bytes) :
    (front ++ byte :: back).rdropWhile drop = front ++ byte :: back.rdropWhile drop := by
  induction back using List.reverseRecOn with
  | nil => exact rdropWhile_concat_neg _ _ _ (by simp [kept])
  | append_singleton rest last hypothesis =>
    rw [← cons_append, ← append_assoc, rdropWhile_concat, rdropWhile_concat]
    split
    · exact hypothesis
    · rw [append_assoc, cons_append]

theorem rdropWhile_append_of_all (front : Bytes) {back : Bytes}
    (dropped : ∀ byte ∈ back, drop byte = true) :
    (front ++ back).rdropWhile drop = front.rdropWhile drop := by
  induction back using List.reverseRecOn with
  | nil => rw [append_nil]
  | append_singleton rest last hypothesis =>
    rw [← append_assoc, rdropWhile_concat_pos _ _ _ (dropped last (by simp))]
    exact hypothesis fun byte member => dropped byte (by simp [member])

end KetPhone
