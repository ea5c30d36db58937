/-
This file models `sip/text.hpp`: trimming, case folding, splitting into lines
and reading whole numbers. The SIP and SDP parsers are built from these alone.
-/

import KetPhone.Bytes

namespace KetPhone.Sip

open List

variable {byte : UInt8} (value : Bytes)

/-- A space or a tab. -/
def isBlank (byte : UInt8) : Bool := byte == 32 || byte == 9

/-- What `trim` removes at the end: blanks and carriage returns. -/
def isTrailing (byte : UInt8) : Bool := byte == 32 || byte == 9 || byte == 13

def trim (value : Bytes) : Bytes := (value.dropWhile isBlank).rdropWhile isTrailing

/-- `std::tolower` of the C locale. -/
def toLower (byte : UInt8) : UInt8 := if 65 ≤ byte ∧ byte ≤ 90 then byte + 32 else byte

def lowercase (value : Bytes) : Bytes := value.map toLower

def iequals (first second : Bytes) : Bool := lowercase first == lowercase second

/-- Removes one carriage return at the end of a line. -/
def stripReturn (line : Bytes) : Bytes :=
  if line.getLast? = some 13 then line.dropLast else line

/-- `split_lines`: splits on CRLF, also accepting bare LF. -/
def splitLines (text : Bytes) : List Bytes := (pieces 10 text).map stripReturn

/-- `parse_integer` for an unsigned type of `width` bits. -/
def parseInteger (width : Nat) (text : Bytes) : Option Nat := fromChars width (trim text)

/-- `parse_integer<int>`. -/
def parseInt (text : Bytes) : Option Int := fromCharsInt (trim text)

/-! ### Lines -/

/-- A text that is empty or ends in a line feed, so that what follows starts a line. -/
def Complete (text : Bytes) : Prop := text = [] ∨ ∃ front, text = front ++ [10]

theorem splitLines_append {text : Bytes} (complete : Complete text) (rest : Bytes) :
    splitLines (text ++ rest) = splitLines text ++ splitLines rest := by
  unfold splitLines
  rcases complete with rfl | ⟨front, rfl⟩
  · rfl
  · rw [append_assoc, singleton_append, pieces_append, map_append]

theorem splitLines_cons {line : Bytes} (absent : 10 ∉ line) (rest : Bytes) :
    splitLines (line ++ ascii "\r\n" ++ rest) = line :: splitLines rest := by
  unfold splitLines
  have piece : line ++ ascii "\r\n" ++ rest = (line ++ [13]) ++ 10 :: rest := by
    rw [show ascii "\r\n" = [13, 10] by decide]
    simp
  have stripped : stripReturn (line ++ [13]) = line := by
    unfold stripReturn
    rw [List.getLast?_concat, if_pos rfl, dropLast_concat]
  rw [piece, pieces_cons (by simpa using absent), map_cons, stripped]

theorem splitLines_last {line : Bytes} (nonempty : line ≠ []) (absent : 10 ∉ line)
    (kept : line.getLast? ≠ some 13) : splitLines line = [line] := by
  unfold splitLines
  rw [pieces_last nonempty absent, map_singleton, stripReturn, if_neg kept]

/-! ### Trimming -/

theorem isTrailing_of_isBlank (blank : isBlank byte = true) : isTrailing byte = true := by
  unfold isBlank at blank
  unfold isTrailing
  rw [blank, Bool.true_or]

theorem isDigit_not_isTrailing (digit : isDigit byte = true) : isTrailing byte = false := by
  unfold isDigit at digit
  unfold isTrailing
  rw [Bool.and_eq_true, decide_eq_true_eq, decide_eq_true_eq, UInt8.le_iff_toNat_le,
    UInt8.le_iff_toNat_le] at digit
  simp only [Bool.or_eq_false_iff, beq_eq_false_iff_ne, ne_eq, ← UInt8.toNat_inj]
  simp only [UInt8.reduceToNat] at digit ⊢
  omega

theorem not_isBlank_of_not_isTrailing (kept : isTrailing byte = false) : isBlank byte = false := by
  cases blank : isBlank byte with
  | false => rfl
  | true => exact (isTrailing_of_isBlank blank).symm.trans kept

theorem trim_eq_self {value : Bytes} (kept : ∀ byte ∈ value, isTrailing byte = false) :
    trim value = value := by
  have front : value.dropWhile isBlank = value := by
    rw [dropWhile_eq_self_iff]
    intro nonempty
    rw [not_isBlank_of_not_isTrailing (kept _ (getElem_mem nonempty))]
    decide
  rw [trim, front, rdropWhile_eq_self_iff]
  intro nonempty
  rw [kept _ (getLast_mem nonempty)]
  decide

theorem trim_between {front back : Bytes} (middle : Bytes) (first : front ≠ [])
    (solidFront : ∀ byte ∈ front, isTrailing byte = false) (last : back ≠ [])
    (solidBack : ∀ byte ∈ back, isTrailing byte = false) :
    trim (front ++ middle ++ back) = front ++ middle ++ back := by
  have start : (front ++ middle ++ back).dropWhile isBlank = front ++ middle ++ back := by
    cases front with
    | nil => exact absurd rfl first
    | cons byte rest =>
      have kept := not_isBlank_of_not_isTrailing (solidFront byte mem_cons_self)
      exact dropWhile_cons_of_neg (by simp [kept])
  unfold trim
  rw [start, rdropWhile_eq_self_iff]
  intro nonempty
  rw [getLast_append_of_ne_nil nonempty last, solidBack _ (getLast_mem last)]
  decide

theorem trim_decimal (number : Nat) : trim (decimal number) = decimal number :=
  trim_eq_self fun _ member => isDigit_not_isTrailing (isDigit_of_mem_decimal member)

theorem trim_cons_of_blank (blank : isBlank byte = true) (value : Bytes) :
    trim (byte :: value) = trim value := by
  unfold trim
  rw [dropWhile_cons_of_pos blank]

theorem dropWhile_trim : (trim value).dropWhile isBlank = trim value := by
  unfold trim
  rw [dropWhile_eq_self_iff]
  intro nonempty
  have front := rdropWhile_prefix isTrailing (value.dropWhile isBlank)
  have first := front.getElem nonempty
  rw [first]
  have long : 0 < (value.dropWhile isBlank).length := lt_of_lt_of_le nonempty front.length_le
  exact dropWhile_get_zero_not isBlank value long

theorem trim_trim : trim (trim value) = trim value := by
  rw [trim, dropWhile_trim]
  exact rdropWhile_idempotent isTrailing _

theorem exists_kept_of_trim_ne_nil {value : Bytes} (nonempty : trim value ≠ []) :
    ∃ byte ∈ trim value, isTrailing byte = false := by
  refine ⟨(trim value).getLast nonempty, getLast_mem nonempty, ?_⟩
  exact Bool.not_eq_true _ ▸ rdropWhile_last_not isTrailing _ nonempty

theorem trim_append_blanks {value blanks : Bytes} (trimmed : trim value = value)
    (nonempty : value ≠ []) (blank : ∀ byte ∈ blanks, isBlank byte = true) :
    trim (value ++ blanks) = value := by
  have front : (value ++ blanks).dropWhile isBlank = value ++ blanks := by
    have start : value.dropWhile isBlank = value := by
      rw [← trimmed]
      exact dropWhile_trim value
    cases value with
    | nil => exact absurd rfl nonempty
    | cons byte rest =>
      rw [dropWhile_cons] at start
      split at start
      · have longer := length_dropWhile_le isBlank rest
        rw [start, length_cons] at longer
        omega
      · rename_i kept
        rw [cons_append, dropWhile_cons, if_neg kept]
  have back : value.rdropWhile isTrailing = value := by
    rw [← trimmed]
    exact rdropWhile_idempotent isTrailing _
  rw [trim, front, rdropWhile_append_of_all value fun byte member =>
    isTrailing_of_isBlank (blank byte member), back]

theorem trim_blanks_append {blanks : Bytes} (blank : ∀ byte ∈ blanks, isBlank byte = true)
    (value : Bytes) : trim (blanks ++ value) = trim value := by
  unfold trim
  rw [dropWhile_append_of_pos blank]

theorem trim_rdropWhile : trim (value.rdropWhile isTrailing) = trim value := by
  induction value using List.reverseRecOn with
  | nil => rfl
  | append_singleton front last hypothesis =>
    cases trailing : isTrailing last with
    | false => rw [rdropWhile_concat_neg _ _ _ (by simp [trailing])]
    | true =>
      rw [rdropWhile_concat_pos _ _ _ trailing, hypothesis]
      unfold trim
      rw [dropWhile_append]
      split
      next dropped =>
        rw [isEmpty_iff.mp dropped, dropWhile_cons]
        split
        · rfl
        · exact (rdropWhile_concat_pos _ [] _ trailing).symm
      · rw [rdropWhile_concat_pos _ _ _ trailing]

theorem trim_word_append {first last : UInt8} {middle : Bytes} {word : Bytes}
    (starts : word.head? = some first) (solid : isBlank first = false)
    (ends : word = middle ++ [last]) (kept : isTrailing last = false) (rest : Bytes) :
    trim (word ++ rest) = word ++ rest.rdropWhile isTrailing := by
  have front : (word ++ rest).dropWhile isBlank = word ++ rest := by
    cases word with
    | nil => cases starts
    | cons byte word =>
      cases starts
      exact dropWhile_cons_of_neg (by simp [solid])
  rw [trim, front, ends, append_assoc, append_assoc]
  exact rdropWhile_kept middle kept rest

end KetPhone.Sip
