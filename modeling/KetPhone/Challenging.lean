/-
This file follows a digest challenge through `parse_challenge`. The loop reads one
parameter after the other, and what it has read is a list of names and values of
which the last of each name counts. A challenge in any shape, with tokens or
quoted values, escapes, blanks and parameters in any order, gives that list as it
was written.
-/

import KetPhone.Unbroken

namespace KetPhone.Sip

open List

/-! ### One parameter after the other -/

/-- One round of the loop: the next parameter with its name in lowercase, and what follows it. -/
def nextParameter (raw : Bytes) : Option ((Bytes × Bytes) × Bytes) :=
  if raw = [] then none
  else
    let value := skipCommas raw.length (trim raw)
    (findByte 61 value).map fun equals =>
      let (parsed, rest) := readValue (trim (value.drop (equals + 1)))
      ((lowercase (trim (value.take equals)), parsed), rest)

theorem length_trim_le (value : Bytes) : (trim value).length ≤ value.length := by
  have kept : trim value <+: value.dropWhile isBlank := rdropWhile_prefix _ _
  exact kept.length_le.trans (length_dropWhile_le _ _)

theorem length_skipCommas_le (fuel : Nat) (value : Bytes) :
    (skipCommas fuel value).length ≤ value.length := by
  fun_induction skipCommas fuel value with
  | case1 => exact Nat.le_refl _
  | case2 fuel rest hypothesis =>
    exact (hypothesis.trans (length_trim_le rest)).trans (Nat.le_succ _)
  | case3 => exact Nat.le_refl _

theorem length_readQuoted_le (value : Bytes) : (readQuoted value).2.length ≤ value.length := by
  fun_induction readQuoted value with
  | case1 => exact Nat.le_refl _
  | case2 rest => exact Nat.le_succ _
  | case3 => exact Nat.zero_le _
  | case4 escaped rest text after read hypothesis =>
    rw [read] at hypothesis
    exact hypothesis.trans ((Nat.le_succ _).trans (Nat.le_succ _))
  | case5 byte rest _ _ _ text after read hypothesis =>
    rw [read] at hypothesis
    exact hypothesis.trans (Nat.le_succ _)

theorem length_readValue_le (value : Bytes) : (readValue value).2.length ≤ value.length := by
  unfold readValue
  split
  next rest => exact (length_readQuoted_le rest).trans (Nat.le_succ _)
  · split
    · exact Nat.zero_le _
    · rw [length_drop]
      exact Nat.sub_le _ _

theorem nextParameter_shorter {raw rest : Bytes} {entry : Bytes × Bytes}
    (next : nextParameter raw = some (entry, rest)) : rest.length < raw.length := by
  unfold nextParameter at next
  split at next
  · cases next
  · dsimp only at next
    obtain ⟨equals, found, read⟩ := Option.map_eq_some_iff.mp next
    obtain ⟨front, behind, cut, rfl, -⟩ := findByte_eq_some found
    have whole := (length_skipCommas_le raw.length (trim raw)).trans (length_trim_le raw)
    have value := (length_readValue_le (trim ((skipCommas raw.length (trim raw)).drop
      (front.length + 1)))).trans (length_trim_le _)
    rw [← (Prod.mk.inj read).2, cut]
    rw [length_drop, cut, length_append, length_cons] at value
    rw [cut, length_append, length_cons] at whole
    refine lt_of_le_of_lt value ?_
    omega

/-- The parameters that the loop reads. -/
def readParameters : Nat → Bytes → List (Bytes × Bytes)
  | 0, _ => []
  | fuel + 1, raw =>
    match nextParameter raw with
    | none => []
    | some (entry, rest) => entry :: readParameters fuel rest

def entries (raw : Bytes) : List (Bytes × Bytes) := readParameters (raw.length + 1) raw

theorem readParameters_eq (fuel : Nat) (raw : Bytes) (enough : raw.length < fuel) :
    readParameters fuel raw = entries raw := by
  induction fuel using Nat.strongRecOn generalizing raw with
  | ind fuel hypothesis =>
    cases fuel with
    | zero => exact absurd enough (Nat.not_lt_zero _)
    | succ fuel =>
      unfold entries readParameters
      cases next : nextParameter raw with
      | none => rfl
      | some found =>
        have shorter := nextParameter_shorter next
        dsimp only
        congr 1
        rcases Nat.lt_succ_iff_lt_or_eq.mp enough with less | same
        · rw [hypothesis fuel (Nat.lt_succ_self _) _ (by omega),
            hypothesis raw.length (by omega) _ shorter]
        · rw [same]

theorem entries_of_next {raw rest : Bytes} {entry : Bytes × Bytes}
    (next : nextParameter raw = some (entry, rest)) : entries raw = entry :: entries rest := by
  rw [entries, readParameters, next]
  exact congrArg _ (readParameters_eq _ _ (nextParameter_shorter next))

theorem entries_of_none {raw : Bytes} (next : nextParameter raw = none) : entries raw = [] := by
  rw [entries, readParameters, next]

theorem challengeLoop_eq (fuel : Nat) (raw : Bytes) (challenge : Challenge) (hasNonce : Bool) :
    challengeLoop fuel raw challenge hasNonce =
      ((readParameters fuel raw).foldl (fun known entry => setParameter known entry.1 entry.2)
          challenge,
        hasNonce || (readParameters fuel raw).any fun entry => entry.1 == ascii "nonce") := by
  induction fuel generalizing raw challenge hasNonce with
  | zero => rw [challengeLoop, readParameters, any_nil, Bool.or_false]; rfl
  | succ fuel hypothesis =>
    unfold challengeLoop readParameters nextParameter
    split
    · rw [any_nil, Bool.or_false]; rfl
    · dsimp only
      cases findByte 61 (skipCommas raw.length (trim raw)) with
      | none => rw [Option.map_none, any_nil, Bool.or_false]; rfl
      | some equals =>
        rw [Option.map_some, foldl_cons, any_cons, ← Bool.or_assoc]
        exact hypothesis _ _ _

/-- The value of the last parameter of a name. -/
def lastValue (key : Bytes) : List (Bytes × Bytes) → Option Bytes
  | [] => none
  | entry :: rest => (lastValue key rest).or (if entry.1 = key then some entry.2 else none)

theorem parameterNames_nodup :
    [ascii "realm", ascii "nonce", ascii "opaque", ascii "algorithm", ascii "qop"].Nodup := by
  decide +kernel

/-- A parameter changes the field of its name and no other. -/
theorem setParameter_eq (challenge : Challenge) (key value : Bytes) :
    setParameter challenge key value =
      { realm := if key = ascii "realm" then value else challenge.realm
        nonce := if key = ascii "nonce" then value else challenge.nonce
        opaqueText := if key = ascii "opaque" then value else challenge.opaqueText
        algorithm := if key = ascii "algorithm" then value else challenge.algorithm
        qopAuth := challenge.qopAuth || (key == ascii "qop" && offersAuth value) } := by
  have names := parameterNames_nodup
  simp only [nodup_cons, mem_cons, not_mem_nil, or_false, not_or] at names
  obtain ⟨⟨_, _, _, _⟩, ⟨_, _, _⟩, ⟨_, _⟩, _, -⟩ := names
  unfold setParameter
  by_cases realm : key = ascii "realm"
  · subst realm
    simp [*]
  by_cases nonce : key = ascii "nonce"
  · subst nonce
    simp [*]
  by_cases opaqueText : key = ascii "opaque"
  · subst opaqueText
    simp [*]
  by_cases algorithm : key = ascii "algorithm"
  · subst algorithm
    simp [*]
  by_cases qop : key = ascii "qop"
  · subst qop
    simp [*]
  · simp only [if_neg realm, if_neg nonce, if_neg opaqueText, if_neg algorithm, if_neg qop,
      beq_false_of_ne qop, Bool.false_and, Bool.or_false]

/-- Of a parameter that comes more than once the last counts; of the options any. -/
theorem foldl_setParameter (read : List (Bytes × Bytes)) (challenge : Challenge) :
    read.foldl (fun known entry => setParameter known entry.1 entry.2) challenge =
      { realm := (lastValue (ascii "realm") read).getD challenge.realm
        nonce := (lastValue (ascii "nonce") read).getD challenge.nonce
        opaqueText := (lastValue (ascii "opaque") read).getD challenge.opaqueText
        algorithm := (lastValue (ascii "algorithm") read).getD challenge.algorithm
        qopAuth := challenge.qopAuth ||
          read.any fun entry => entry.1 == ascii "qop" && offersAuth entry.2 } := by
  induction read generalizing challenge with
  | nil => rw [any_nil, Bool.or_false]; rfl
  | cons entry read hypothesis =>
    obtain ⟨key, value⟩ := entry
    have step (name old : Bytes) :
        (lastValue name read).getD (if key = name then value else old) =
          (lastValue name ((key, value) :: read)).getD old := by
      rw [lastValue]
      cases lastValue name read with
      | some last => rfl
      | none =>
        rw [Option.none_or]
        split <;> rfl
    rw [foldl_cons, hypothesis, setParameter_eq, any_cons, ← Bool.or_assoc]
    simp only [step]

theorem any_key_eq (key : Bytes) (read : List (Bytes × Bytes)) :
    (read.any fun entry => entry.1 == key) = (lastValue key read).isSome := by
  induction read with
  | nil => rfl
  | cons entry read hypothesis =>
    rw [any_cons, hypothesis, lastValue, Option.isSome_or, Bool.or_comm]
    congr 1
    split
    next same => rw [same, beq_self_eq_true]; rfl
    next other => rw [beq_false_of_ne other]; rfl

/-- What a challenge says once its parameters are read. -/
def Challenge.ofEntries (read : List (Bytes × Bytes)) : Option Challenge :=
  (lastValue (ascii "nonce") read).map fun nonce =>
    { realm := (lastValue (ascii "realm") read).getD []
      nonce
      opaqueText := (lastValue (ascii "opaque") read).getD []
      algorithm := (lastValue (ascii "algorithm") read).getD []
      qopAuth := read.any fun entry => entry.1 == ascii "qop" && offersAuth entry.2 }

theorem parseChallenge_eq (raw : Bytes) :
    parseChallenge raw =
      if (trim raw).length < 7 ∨ !iequals ((trim raw).take 6) (ascii "Digest") then none
      else Challenge.ofEntries (entries ((trim raw).drop 6)) := by
  unfold parseChallenge
  dsimp only
  split
  · rfl
  · rw [challengeLoop_eq, foldl_setParameter, Bool.false_or, any_key_eq]
    unfold Challenge.ofEntries entries
    dsimp only
    cases lastValue (ascii "nonce") (readParameters (((trim raw).drop 6).length + 1)
      ((trim raw).drop 6)) <;> simp

/-! ### How a challenge is written -/

/-- A value as a token, or between quotes with a backslash before some of its bytes: before every
quote and every backslash at least. -/
inductive Written where
  | token (text : Bytes) (valid : isToken text = true)
  | quoted (body : List (Bool × UInt8))
    (valid : ∀ entry ∈ body, entry.1 = false → entry.2 ≠ 34 ∧ entry.2 ≠ 92)

/-- The bytes between the quotes, each behind its backslash if it has one. -/
def quotedText (body : List (Bool × UInt8)) : Bytes :=
  body.flatMap fun entry => if entry.1 then [92, entry.2] else [entry.2]

namespace Written

def text : Written → Bytes
  | token text _ => text
  | quoted body _ => 34 :: (quotedText body ++ [34])

def value : Written → Bytes
  | token text _ => text
  | quoted body _ => body.map Prod.snd

end Written

/-- A parameter of a challenge with the blanks around its parts. -/
structure DigestParameter where
  front : Bytes
  name : Bytes
  before : Bytes
  after : Bytes
  written : Written
  back : Bytes
  token : isToken name = true
  blanks : ∀ byte ∈ front ++ before ++ after ++ back, isBlank byte = true

namespace DigestParameter

variable (parameter : DigestParameter)

def text : Bytes :=
  parameter.front ++ parameter.name ++ parameter.before ++ 61 ::
    (parameter.after ++ parameter.written.text ++ parameter.back)

/-- What the loop reads: names are compared in lowercase. -/
def entry : Bytes × Bytes := (lowercase parameter.name, parameter.written.value)

/-- Parameters that follow others, each behind a comma. -/
def continued : List DigestParameter → Bytes
  | [] => []
  | parameter :: rest => 44 :: (parameter.text ++ continued rest)

/-- Parameters joined by commas. -/
def list : List DigestParameter → Bytes
  | [] => []
  | parameter :: rest => parameter.text ++ continued rest

end DigestParameter

theorem readQuoted_quotedText {body : List (Bool × UInt8)}
    (valid : ∀ entry ∈ body, entry.1 = false → entry.2 ≠ 34 ∧ entry.2 ≠ 92) (rest : Bytes) :
    readQuoted (quotedText body ++ 34 :: rest) = (body.map Prod.snd, rest) := by
  induction body with
  | nil => rfl
  | cons entry body hypothesis =>
    have read := hypothesis fun other member => valid other (mem_cons_of_mem _ member)
    obtain ⟨escaped, byte⟩ := entry
    cases escaped with
    | true =>
      show readQuoted (92 :: byte :: (quotedText body ++ 34 :: rest)) = _
      rw [readQuoted, read]
      rfl
    | false =>
      obtain ⟨noQuote, noSlash⟩ := valid _ mem_cons_self rfl
      show readQuoted (byte :: (quotedText body ++ 34 :: rest)) = _
      rw [readQuoted, read]
      · rfl
      · exact fun equal => absurd equal noQuote
      · exact fun equal => absurd equal noSlash
      · exact fun _ _ equal => absurd equal noSlash

/-! ### What is read of it -/

theorem skipCommas_of_ne {first : UInt8} (other : first ≠ 44) (fuel : Nat) (rest : Bytes) :
    skipCommas fuel (first :: rest) = first :: rest := by
  cases fuel with
  | zero => rfl
  | succ fuel =>
    unfold skipCommas
    split
    next equal => exact absurd (List.cons.inj equal).1 other
    · rfl

theorem trim_token_append {word : Bytes} (token : isToken word = true) (rest : Bytes) :
    trim (word ++ rest) = word ++ rest.rdropWhile isTrailing := by
  obtain ⟨nonempty, bytes⟩ := isToken_bytes token
  have solid (byte : UInt8) (member : byte ∈ word) : isTrailing byte = false :=
    (isTokenByte_plain (bytes byte member)).1
  exact trim_word_append (List.head?_eq_some_head nonempty)
    (not_isBlank_of_not_isTrailing (solid _ (head_mem nonempty)))
    (dropLast_append_getLast nonempty).symm (solid _ (getLast_mem nonempty)) rest

theorem Written.trim_append (written : Written) (rest : Bytes) :
    trim (written.text ++ rest) = written.text ++ rest.rdropWhile isTrailing := by
  cases written with
  | token text valid => exact trim_token_append valid rest
  | quoted body valid =>
    have ends : 34 :: (quotedText body ++ [34]) = (34 :: quotedText body) ++ [34] := rfl
    exact trim_word_append rfl (by decide) ends (by decide : isTrailing 34 = false) rest

namespace DigestParameter

variable {parameter : DigestParameter} {rest : List DigestParameter}

theorem blank_of_mem {byte : UInt8} (inside : byte ∈ parameter.front ∨ byte ∈ parameter.before ∨
    byte ∈ parameter.after ∨ byte ∈ parameter.back) : isBlank byte = true := by
  refine parameter.blanks byte ?_
  simp only [mem_append]
  tauto

theorem rdropWhile_blanks {blanks : Bytes} (blank : ∀ byte ∈ blanks, isBlank byte = true) :
    blanks.rdropWhile isTrailing = [] := by
  rw [← nil_append blanks,
    rdropWhile_append_of_all [] fun byte member => isTrailing_of_isBlank (blank byte member)]
  rfl

theorem trim_list (parameter : DigestParameter) (rest : List DigestParameter) :
    trim (list (parameter :: rest)) =
      parameter.name ++ parameter.before ++ 61 ::
        (parameter.after ++ parameter.written.text ++ parameter.back ++
          continued rest).rdropWhile isTrailing := by
  have cut : list (parameter :: rest) = parameter.front ++ (parameter.name ++
      (parameter.before ++ 61 :: (parameter.after ++ parameter.written.text ++ parameter.back ++
        continued rest))) := by
    simp [list, text]
  rw [cut, trim_blanks_append fun byte member => blank_of_mem (Or.inl member),
    trim_token_append parameter.token, rdropWhile_kept _ (by decide)]
  exact (append_assoc _ _ _).symm

/-- Behind a value come the blanks after it and the parameters that follow. -/
def Ahead (rest : List DigestParameter) (raw : Bytes) : Prop :=
  skipCommas raw.length (trim raw) = trim (list rest)

theorem ahead_list (rest : List DigestParameter) (fuel : Nat) :
    skipCommas fuel (trim (list rest)) = trim (list rest) := by
  cases rest with
  | nil => cases fuel <;> rfl
  | cons parameter rest =>
    obtain ⟨nonempty, bytes⟩ := isToken_bytes parameter.token
    rw [trim_list]
    cases word : parameter.name with
    | nil => exact absurd word nonempty
    | cons first more =>
      refine skipCommas_of_ne ?_ _ _
      rintro rfl
      exact notMem_of_isToken parameter.token (by decide) (word ▸ mem_cons_self)

theorem ahead_continued {blanks : Bytes} (blank : ∀ byte ∈ blanks, isBlank byte = true)
    (rest : List DigestParameter) :
    Ahead rest (blanks ++ (continued rest).rdropWhile isTrailing) := by
  unfold Ahead
  rw [trim_blanks_append blank]
  cases rest with
  | nil =>
    show skipCommas _ [] = []
    generalize (blanks ++ (continued []).rdropWhile isTrailing).length = fuel
    cases fuel <;> rfl
  | cons parameter rest =>
    have start : (continued (parameter :: rest)).rdropWhile isTrailing =
        44 :: (list (parameter :: rest)).rdropWhile isTrailing :=
      rdropWhile_kept [] (by decide) _
    have trimmed : trim (44 :: (list (parameter :: rest)).rdropWhile isTrailing) =
        44 :: (list (parameter :: rest)).rdropWhile isTrailing := by
      have word : trim ([44] ++ (list (parameter :: rest)).rdropWhile isTrailing) = _ :=
        trim_word_append rfl (by decide) (nil_append [44]).symm (by decide) _
      rw [rdropWhile_idempotent] at word
      exact word
    rw [start, trimmed]
    obtain ⟨fuel, long⟩ : ∃ fuel, (blanks ++ 44 ::
        (list (parameter :: rest)).rdropWhile isTrailing).length = fuel + 1 :=
      ⟨_, by rw [length_append, length_cons, ← Nat.add_assoc]⟩
    rw [long, skipCommas, trim_rdropWhile]
    exact ahead_list _ fuel

theorem rdropWhile_behind (parameter : DigestParameter) (rest : List DigestParameter) :
    ∃ blanks, (∀ byte ∈ blanks, isBlank byte = true) ∧
      (parameter.back ++ continued rest).rdropWhile isTrailing =
        blanks ++ (continued rest).rdropWhile isTrailing := by
  have blank (byte : UInt8) (member : byte ∈ parameter.back) : isBlank byte = true :=
    blank_of_mem (Or.inr (Or.inr (Or.inr member)))
  cases rest with
  | nil =>
    have nothing : (parameter.back ++ continued []).rdropWhile isTrailing = [] := by
      rw [show continued [] = [] from rfl, append_nil, rdropWhile_blanks blank]
    exact ⟨[], forall_mem_nil _, nothing⟩
  | cons next rest =>
    refine ⟨parameter.back, blank, ?_⟩
    rw [continued, rdropWhile_kept _ (by decide)]
    exact congrArg _ (rdropWhile_kept [] (by decide) _).symm

theorem readValue_token {word : Bytes} (valid : isToken word = true) (text : Bytes) :
    readValue (word ++ text) =
      match findByte 44 (word ++ text) with
      | none => (trim (word ++ text), [])
      | some place => (trim ((word ++ text).take place), (word ++ text).drop place) := by
  obtain ⟨nonempty, bytes⟩ := isToken_bytes valid
  cases word with
  | nil => exact absurd rfl nonempty
  | cons first word =>
    unfold readValue
    split
    next equal =>
      cases equal
      exact nomatch bytes _ mem_cons_self
    · rfl

/-- A written value is read, and the parameters that follow stand ahead. -/
theorem readValue_written (written : Written) {blanks : Bytes}
    (blank : ∀ byte ∈ blanks, isBlank byte = true) (rest : List DigestParameter) :
    ∃ raw, readValue (written.text ++ (blanks ++ (continued rest).rdropWhile isTrailing)) =
      (written.value, raw) ∧ Ahead rest raw := by
  cases written with
  | quoted body valid =>
    refine ⟨_, ?_, ahead_continued blank rest⟩
    have text : (Written.quoted body valid).text ++
        (blanks ++ (continued rest).rdropWhile isTrailing) =
          34 :: (quotedText body ++ 34 :: (blanks ++ (continued rest).rdropWhile isTrailing)) := by
      simp [Written.text]
    rw [text, readValue]
    exact readQuoted_quotedText valid _
  | token word valid =>
    have noComma : 44 ∉ word ++ blanks := by
      rw [mem_append, not_or]
      exact ⟨notMem_of_isToken valid (by decide), fun member => nomatch blank _ member⟩
    have trimmed : trim (word ++ blanks) = word := by
      rw [trim_token_append valid, rdropWhile_blanks blank, append_nil]
    have start := ahead_continued (forall_mem_nil fun byte => isBlank byte = true) rest
    rw [nil_append] at start
    show ∃ raw, readValue (word ++ _) = (word, raw) ∧ _
    rw [readValue_token valid, ← append_assoc]
    cases rest with
    | nil =>
      refine ⟨[], ?_, start⟩
      rw [show (continued []).rdropWhile isTrailing = [] from rfl, append_nil,
        findByte_eq_none.mpr noComma]
      exact congrArg (·, []) trimmed
    | cons next rest =>
      refine ⟨_, ?_, start⟩
      rw [continued, show ((44 : UInt8) :: (next.text ++ continued rest)).rdropWhile isTrailing =
        44 :: (next.text ++ continued rest).rdropWhile isTrailing from
          rdropWhile_kept [] (by decide) _, findByte_append noComma]
      dsimp only
      rw [take_left, drop_left, trimmed]

/-- One round reads one written parameter. -/
theorem nextParameter_written {parameter : DigestParameter} {rest : List DigestParameter}
    {raw : Bytes} (ahead : Ahead (parameter :: rest) raw) :
    ∃ after, nextParameter raw = some (parameter.entry, after) ∧ Ahead rest after := by
  obtain ⟨blanks, blank, behind⟩ := rdropWhile_behind parameter rest
  obtain ⟨after, read, next⟩ := readValue_written parameter.written blank rest
  refine ⟨after, ?_, next⟩
  have blankBefore (byte : UInt8) (member : byte ∈ parameter.before) : isBlank byte = true :=
    blank_of_mem (Or.inr (Or.inl member))
  have noEquals : 61 ∉ parameter.name ++ parameter.before := by
    rw [mem_append, not_or]
    exact ⟨notMem_of_isToken parameter.token (by decide),
      fun member => nomatch blankBefore _ member⟩
  have nonempty : raw ≠ [] := by
    rintro rfl
    unfold Ahead at ahead
    rw [trim_list] at ahead
    exact absurd ahead.symm (append_ne_nil_of_right_ne_nil _ (cons_ne_nil _ _))
  unfold Ahead at ahead
  unfold nextParameter
  rw [if_neg nonempty, ahead, trim_list]
  dsimp only
  rw [findByte_append noEquals, Option.map_some, take_left, drop_length_add_append]
  show some ((lowercase (trim (parameter.name ++ parameter.before)), (readValue (trim
    (List.rdropWhile isTrailing _))).1), (readValue (trim (List.rdropWhile isTrailing _))).2) = _
  have name : trim (parameter.name ++ parameter.before) = parameter.name := by
    rw [trim_token_append parameter.token, rdropWhile_blanks blankBefore, append_nil]
  have value : trim ((parameter.after ++ parameter.written.text ++ parameter.back ++
      continued rest).rdropWhile isTrailing) =
        parameter.written.text ++ (parameter.back ++ continued rest).rdropWhile isTrailing := by
    rw [trim_rdropWhile, append_assoc, append_assoc,
      trim_blanks_append fun byte member => blank_of_mem (Or.inr (Or.inr (Or.inl member))),
      Written.trim_append]
  rw [name, value, behind, read]
  rfl

theorem entries_written (written : List DigestParameter) {raw : Bytes} (ahead : Ahead written raw) :
    entries raw = written.map entry := by
  induction written generalizing raw with
  | nil =>
    have ended : nextParameter raw = none := by
      unfold nextParameter
      split
      · rfl
      · unfold Ahead at ahead
        rw [ahead]
        rfl
    exact entries_of_none ended
  | cons parameter rest hypothesis =>
    obtain ⟨after, next, follows⟩ := nextParameter_written ahead
    rw [entries_of_next next, hypothesis follows, map_cons]

end DigestParameter

/-! ### Options -/

/-- An option of a qop list with the blanks around it. -/
structure QopOption where
  front : Bytes
  name : Bytes
  back : Bytes
  token : isToken name = true
  blanks : ∀ byte ∈ front ++ back, isBlank byte = true

namespace QopOption

def text (option : QopOption) : Bytes := option.front ++ option.name ++ option.back

/-- Options joined by commas. -/
def list : List QopOption → Bytes
  | [] => []
  | [option] => option.text
  | option :: rest => option.text ++ 44 :: list rest

theorem trim_text (option : QopOption) : trim option.text = option.name := by
  have front (byte : UInt8) (member : byte ∈ option.front) : isBlank byte = true :=
    option.blanks byte (mem_append_left _ member)
  have back (byte : UInt8) (member : byte ∈ option.back) : isBlank byte = true :=
    option.blanks byte (mem_append_right _ member)
  rw [text, append_assoc, trim_blanks_append front, trim_token_append option.token,
    DigestParameter.rdropWhile_blanks back, append_nil]

theorem pieces_list (options : List QopOption) : pieces 44 (list options) = options.map text := by
  have noComma (option : QopOption) : 44 ∉ option.text := by
    intro member
    rw [text, append_assoc, mem_append, mem_append] at member
    rcases member with front | name | back
    · exact nomatch option.blanks _ (mem_append_left _ front)
    · exact notMem_of_isToken option.token (by decide) name
    · exact nomatch option.blanks _ (mem_append_right _ back)
  have nonempty (option : QopOption) : option.text ≠ [] :=
    append_ne_nil_of_left_ne_nil
      (append_ne_nil_of_right_ne_nil _ (isToken_bytes option.token).1) _
  induction options with
  | nil => rfl
  | cons option rest hypothesis =>
    cases rest with
    | nil => exact pieces_last (nonempty option) (noComma option)
    | cons next rest =>
      rw [list, pieces_cons (noComma option), hypothesis]
      · rfl
      · exact fun empty => nomatch empty

theorem offersAuth_list (options : List QopOption) :
    offersAuth (list options) = options.any fun option => iequals option.name (ascii "auth") := by
  unfold offersAuth
  rw [pieces_list, any_map]
  congr 1
  funext option
  rw [Function.comp_apply, trim_text]

end QopOption

/-! ### Challenges in any shape -/

namespace DigestParameter

/-- The value of the parameter of a name. -/
def valueNamed (name : String) (written : List DigestParameter) : Option Bytes :=
  (written.find? fun parameter => lowercase parameter.name = ascii name).map fun parameter =>
    parameter.written.value

/-- No name comes twice. -/
def Once (written : List DigestParameter) : Prop :=
  (written.map fun parameter => lowercase parameter.name).Nodup

instance (written : List DigestParameter) : Decidable (Once written) :=
  inferInstanceAs (Decidable (List.Nodup _))

theorem lastValue_eq_none {key : Bytes} {written : List DigestParameter}
    (absent : ∀ parameter ∈ written, lowercase parameter.name ≠ key) :
    lastValue key (written.map entry) = none := by
  induction written with
  | nil => rfl
  | cons parameter rest hypothesis =>
    rw [map_cons, lastValue,
      hypothesis fun other member => absent other (mem_cons_of_mem _ member),
      Option.none_or]
    exact if_neg (absent parameter mem_cons_self)

theorem lastValue_written {written : List DigestParameter} (once : Once written) (name : String) :
    lastValue (ascii name) (written.map entry) = valueNamed name written := by
  unfold Once at once
  induction written with
  | nil => rfl
  | cons parameter rest hypothesis =>
    rw [map_cons, nodup_cons] at once
    rw [map_cons, lastValue]
    by_cases named : lowercase parameter.name = ascii name
    · have absent : ∀ other ∈ rest, lowercase other.name ≠ ascii name := fun other member equal =>
        once.1 (mem_map.mpr ⟨other, member, equal.trans named.symm⟩)
      rw [lastValue_eq_none absent, Option.none_or, valueNamed,
        List.find?_cons_of_pos (by simp [named])]
      exact if_pos named
    · rw [hypothesis once.2, valueNamed, valueNamed, List.find?_cons_of_neg (by simp [named])]
      rw [show (if parameter.entry.1 = ascii name then some parameter.entry.2 else none) = none from
        if_neg named, Option.or_none]

/-- Whether the options offer `auth` is read from the one list of options. -/
theorem any_offersAuth {written : List DigestParameter} (once : Once written) :
    ((written.map entry).any fun entry => entry.1 == ascii "qop" && offersAuth entry.2) =
      offersAuth ((valueNamed "qop" written).getD []) := by
  unfold Once at once
  induction written with
  | nil => rfl
  | cons parameter rest hypothesis =>
    rw [map_cons, nodup_cons] at once
    rw [map_cons, any_cons]
    by_cases named : lowercase parameter.name = ascii "qop"
    · have absent :
          ((rest.map entry).any fun entry => entry.1 == ascii "qop" && offersAuth entry.2) =
          false := by
        rw [any_eq_false]
        intro other member
        obtain ⟨later, inside, rfl⟩ := mem_map.mp member
        have different : later.entry.1 ≠ ascii "qop" := fun equal =>
          once.1 (mem_map.mpr ⟨later, inside, equal.trans named.symm⟩)
        simp [different]
      rw [absent, Bool.or_false, valueNamed, List.find?_cons_of_pos (by simp [named])]
      show (lowercase parameter.name == ascii "qop" && offersAuth parameter.written.value) = _
      rw [named, beq_self_eq_true, Bool.true_and]
      rfl
    · rw [hypothesis once.2, valueNamed, valueNamed, List.find?_cons_of_neg (by simp [named])]
      show (lowercase parameter.name == ascii "qop" && _ || _) = _
      rw [beq_false_of_ne named, Bool.false_and, Bool.false_or]

end DigestParameter

theorem solid_of_iequals_digest {word : Bytes} (digest : iequals word (ascii "Digest") = true) :
    word.length = 6 ∧ ∀ byte ∈ word, isTrailing byte = false := by
  have lower : lowercase word = ascii "digest" := by
    rw [show ascii "digest" = lowercase (ascii "Digest") by decide +kernel]
    exact eq_of_beq digest
  refine ⟨?_, fun byte member => ?_⟩
  · rw [← length_map (f := toLower)]
    exact congrArg List.length lower
  · have letter : toLower byte ∈ ascii "digest" := lower ▸ mem_map_of_mem member
    cases trailing : isTrailing byte with
    | false => rfl
    | true =>
      unfold isTrailing at trailing
      simp only [Bool.or_eq_true, beq_iff_eq] at trailing
      rcases trailing with (rfl | rfl) | rfl <;> exact absurd letter (by decide)

/-- A challenge gives its parameters, in order. -/
theorem parseChallenge_list {word : Bytes} {blank : UInt8}
    (digest : iequals word (ascii "Digest") = true) (space : isBlank blank = true)
    (written : List DigestParameter) :
    parseChallenge (word ++ blank :: DigestParameter.list written) =
      Challenge.ofEntries (written.map DigestParameter.entry) := by
  obtain ⟨length, solid⟩ := solid_of_iequals_digest digest
  have nonempty : word ≠ [] := ne_nil_of_length_pos (by omega)
  have trimmed (rest : Bytes) : trim (word ++ rest) = word ++ rest.rdropWhile isTrailing :=
    trim_word_append (List.head?_eq_some_head nonempty)
      (not_isBlank_of_not_isTrailing (solid _ (head_mem nonempty)))
      (dropLast_append_getLast nonempty).symm (solid _ (getLast_mem nonempty)) rest
  rw [parseChallenge_eq, trimmed]
  cases written with
  | nil =>
    have bare : (blank :: DigestParameter.list []).rdropWhile isTrailing = [] :=
      DigestParameter.rdropWhile_blanks fun byte member => mem_singleton.mp member ▸ space
    rw [bare, append_nil, if_pos (Or.inl (by omega))]
    rfl
  | cons parameter rest =>
    have equals : (61 : UInt8) ∈ DigestParameter.list (parameter :: rest) := by
      simp [DigestParameter.list, DigestParameter.text]
    have behind : (blank :: DigestParameter.list (parameter :: rest)).rdropWhile isTrailing =
        blank :: (DigestParameter.list (parameter :: rest)).rdropWhile isTrailing :=
      rdropWhile_append_of_not [blank] ⟨61, equals, by decide⟩
    have ahead : DigestParameter.Ahead (parameter :: rest)
        (blank :: (DigestParameter.list (parameter :: rest)).rdropWhile isTrailing) := by
      unfold DigestParameter.Ahead
      rw [trim_cons_of_blank space, trim_rdropWhile]
      exact DigestParameter.ahead_list _ _
    have scheme : ¬ ((word ++ blank :: (DigestParameter.list (parameter :: rest)).rdropWhile
        isTrailing).length < 7 ∨ (!iequals ((word ++ blank ::
          (DigestParameter.list (parameter :: rest)).rdropWhile isTrailing).take 6)
            (ascii "Digest")) = true) := by
      rw [← length, take_left, digest, length_append, length_cons]
      simp only [Bool.not_true, Bool.false_eq_true, or_false]
      omega
    rw [behind, if_neg scheme, ← length, drop_left,
      DigestParameter.entries_written _ ahead]

open DigestParameter in
/-- A challenge in any shape is read as it was written. -/
theorem parseChallenge_written {word : Bytes} {blank : UInt8}
    (digest : iequals word (ascii "Digest") = true) (space : isBlank blank = true)
    {written : List DigestParameter} (once : Once written) {options : List QopOption}
    (listed : (valueNamed "qop" written).getD [] = QopOption.list options) :
    parseChallenge (word ++ blank :: DigestParameter.list written) =
      (valueNamed "nonce" written).map fun nonce =>
        { realm := (valueNamed "realm" written).getD []
          nonce
          opaqueText := (valueNamed "opaque" written).getD []
          algorithm := (valueNamed "algorithm" written).getD []
          qopAuth := options.any fun option => iequals option.name (ascii "auth") } := by
  rw [parseChallenge_list digest space]
  unfold Challenge.ofEntries
  simp only [lastValue_written once, any_offersAuth once, listed, QopOption.offersAuth_list]

/-- A challenge with blanks, an escaped quote, an unquoted realm and the options first. -/
def shapedChallenge : List DigestParameter :=
  [{ front := []
     name := ascii "QOP"
     before := ascii " "
     after := []
     written := .quoted ((ascii "auth-int, auth").map (false, ·)) (by decide +kernel)
     back := ascii " "
     token := by decide +kernel
     blanks := by decide +kernel },
   { front := ascii "\t"
     name := ascii "nonce"
     before := []
     after := ascii " "
     written := .quoted [(false, 97), (true, 34), (false, 44)] (by decide +kernel)
     back := []
     token := by decide +kernel
     blanks := by decide +kernel },
   { front := []
     name := ascii "Realm"
     before := []
     after := []
     written := .token (ascii "asterisk") (by decide +kernel)
     back := ascii " "
     token := by decide +kernel
     blanks := by decide +kernel }]

/-- The options of that challenge. -/
def shapedOptions : List QopOption :=
  [{ front := []
     name := ascii "auth-int"
     back := []
     token := by decide +kernel
     blanks := by decide +kernel },
   { front := ascii " "
     name := ascii "auth"
     back := []
     token := by decide +kernel
     blanks := by decide +kernel }]

theorem shapedChallenge_written :
    parseChallenge (ascii "DIGEST" ++ 32 :: DigestParameter.list shapedChallenge) =
      some { realm := ascii "asterisk", nonce := ascii "a\",", qopAuth := true } :=
  have listed : (DigestParameter.valueNamed "qop" shapedChallenge).getD [] =
      QopOption.list shapedOptions := by decide +kernel
  (parseChallenge_written (by decide +kernel) (by decide +kernel) (by decide +kernel) listed).trans
    (by decide +kernel)

end KetPhone.Sip
