/-
This file follows an address header, a display name in quotes with a URI in angle
brackets and a tag, through `uri_of`, `display_name_of` and `param_of`. The three
look for the brackets without regard to the quotes. A display name without an
opening bracket gives its URI and itself back; the tag is read behind the first
closing bracket, so a display name that holds one puts its own parameters, and
those of the URI, before it.
-/

import KetPhone.Unbroken

namespace KetPhone.Sip

open List

/-! ### Quoted texts -/

/-- A text as it stands between quotes: a backslash before each quote and each backslash. -/
def escape (text : Bytes) : Bytes :=
  text.flatMap fun byte => if byte = 34 ∨ byte = 92 then [92, byte] else [byte]

theorem escape_cons (byte : UInt8) (text : Bytes) :
    escape (byte :: text) =
      (if byte = 34 ∨ byte = 92 then [92, byte] else [byte]) ++ escape text :=
  flatMap_cons

theorem mem_escape {byte : UInt8} (other : byte ≠ 92) {text : Bytes} :
    byte ∈ escape text ↔ byte ∈ text := by
  induction text with
  | nil => exact Iff.rfl
  | cons head text hypothesis =>
    rw [escape_cons, mem_append, hypothesis, mem_cons]
    refine or_congr ?_ Iff.rfl
    split
    · simp [other]
    · exact mem_singleton

theorem unquote_escape (text : Bytes) : unquote (escape text ++ [34]) = text := by
  induction text with
  | nil => rfl
  | cons byte text hypothesis =>
    obtain ⟨next, rest, more⟩ : ∃ next rest, escape text ++ [34] = next :: rest :=
      exists_cons_of_ne_nil (append_ne_nil_of_right_ne_nil _ (cons_ne_nil _ _))
    rw [escape_cons, append_assoc]
    rw [more] at hypothesis ⊢
    split
    · rw [cons_append, singleton_append, unquote, hypothesis]
    next plain =>
      rw [not_or] at plain
      rw [singleton_append, unquote, hypothesis]
      exact fun _ _ special _ => plain.2 special

/-! ### Parameters -/

/-- The parameters of a text: what follows each semicolon, up to the next semicolon or comma. -/
def parameters : Bytes → List Bytes
  | [] => []
  | byte :: rest =>
    if byte = 59 then upTo (findFirstOf (ascii ";,") rest) rest :: parameters rest
    else parameters rest

def parameterName (parameter : Bytes) : Bytes := trim (upTo (findByte 61 parameter) parameter)

/-- The value of a parameter, empty when it has none. -/
def parameterValue (parameter : Bytes) : Bytes :=
  match findByte 61 parameter with
  | none => []
  | some place => unquoteParam (trim (parameter.drop (place + 1)))

/-- The first parameter of a name. -/
def firstNamed (name : Bytes) (text : Bytes) : Option Bytes :=
  (parameters text).find? fun parameter => iequals (parameterName parameter) name

theorem parameters_append_of_notMem {front : Bytes} (absent : 59 ∉ front) (text : Bytes) :
    parameters (front ++ text) = parameters text := by
  induction front with
  | nil => rfl
  | cons byte front hypothesis =>
    rw [mem_cons, not_or] at absent
    rw [cons_append, parameters, if_neg (Ne.symm absent.1), hypothesis absent.2]

theorem upTo_findFirstOf (set text : Bytes) :
    upTo (findFirstOf set text) text = text.takeWhile fun byte => !set.contains byte := by
  induction text with
  | nil => rfl
  | cons byte text hypothesis =>
    unfold findFirstOf at hypothesis ⊢
    rw [List.findIdx?_cons, takeWhile_cons]
    cases set.contains byte with
    | true => rfl
    | false =>
      rw [← hypothesis]
      cases text.findIdx? (set.contains ·) <;> rfl

theorem takeWhile_append_stop {keep : UInt8 → Bool} {stop : UInt8} (stops : keep stop = false)
    (text rest : Bytes) : (text ++ stop :: rest).takeWhile keep = text.takeWhile keep := by
  induction text with
  | nil => rw [nil_append, takeWhile_cons, stops]; rfl
  | cons byte text hypothesis =>
    rw [cons_append, takeWhile_cons, takeWhile_cons, hypothesis]

theorem parameters_append {stop : UInt8} (stops : stop = 59 ∨ stop = 44) (text rest : Bytes) :
    parameters (text ++ stop :: rest) = parameters text ++ parameters (stop :: rest) := by
  have ends : (!(ascii ";,").contains stop) = false := by
    rcases stops with rfl | rfl <;> decide
  induction text with
  | nil => rfl
  | cons byte text hypothesis =>
    rw [cons_append, parameters, parameters, hypothesis, upTo_findFirstOf,
      upTo_findFirstOf, takeWhile_append_stop ends]
    split <;> rfl

/-- The loop of `param_of` looks for the first parameter of the name. -/
theorem paramsLoop_eq (name : Bytes) (fuel : Nat) (text : Bytes) (enough : text.length < fuel) :
    paramsLoop name fuel text = (firstNamed name text).map parameterValue := by
  induction fuel generalizing text with
  | zero => exact absurd enough (Nat.not_lt_zero _)
  | succ fuel hypothesis =>
    unfold paramsLoop
    cases found : findByte 59 text with
    | none =>
      have empty : parameters text = [] := by
        rw [← append_nil text, parameters_append_of_notMem (findByte_eq_none.mp found)]
        rfl
      rw [firstNamed, empty]
      rfl
    | some place =>
      obtain ⟨front, rest, rfl, rfl, absent⟩ := findByte_eq_some found
      have shorter : rest.length < fuel := by
        simp only [length_append, length_cons] at enough
        omega
      have after : (front ++ 59 :: rest).drop (front.length + 1) = rest := by
        rw [drop_length_add_append]
        rfl
      have first : parameters (front ++ 59 :: rest) =
          upTo (findFirstOf (ascii ";,") rest) rest :: parameters rest := by
        rw [parameters_append_of_notMem absent, parameters, if_pos rfl]
      dsimp only
      rw [after, firstNamed, first, List.find?_cons]
      generalize upTo (findFirstOf (ascii ";,") rest) rest = parameter
      rw [hypothesis rest shorter]
      show (if iequals (parameterName parameter) name = true then _ else _) = _
      cases iequals (parameterName parameter) name with
      | false => rfl
      | true =>
        rw [if_pos rfl, Option.map_some, parameterValue]
        cases findByte 61 parameter <;> rfl

theorem paramOf_behind {front : Bytes} (absent : 62 ∉ front) (rest : Bytes) (name : String) :
    paramOf (front ++ 62 :: rest) name = (firstNamed (ascii name) rest).map parameterValue := by
  have after : (front ++ 62 :: rest).drop (front.length + 1) = rest := by
    rw [drop_length_add_append]
    rfl
  unfold paramOf
  rw [findByte_append absent]
  dsimp only
  rw [after]
  exact paramsLoop_eq _ _ _ (Nat.lt_succ_self _)

/-! ### Address headers -/

/-- The value of a From or To header: a quoted display name, a URI in brackets and a tag. -/
def nameAddr (name uri tag : Bytes) : Bytes :=
  ascii "\"" ++ escape name ++ ascii "\" <" ++ uri ++ ascii ">;tag=" ++ tag

/-- What stands behind the first closing bracket of an address header and before its tag: nothing,
unless the display name holds a bracket. -/
def behindBracket (name uri : Bytes) : Bytes :=
  ((escape name ++ ascii "\" <" ++ uri ++ ascii ">").dropWhile fun byte => byte ≠ 62).tail

/-- The first parameter named tag behind the first closing bracket, if one stands there before the
header's own, has the value of the tag as well. -/
def TagFirst (name uri tag : Bytes) : Prop :=
  ∀ parameter, firstNamed (ascii "tag") (behindBracket name uri) = some parameter →
    parameterValue parameter = tag

theorem unquoteParam_token {text : Bytes} (token : isToken text = true) :
    unquoteParam text = text := by
  unfold unquoteParam
  refine if_neg fun quoted => ?_
  exact notMem_of_isToken token (by decide) (mem_of_mem_head? quoted.2.1)

/-- The header's own tag is read as it was written. -/
theorem firstNamed_tag {tag : Bytes} (token : isToken tag = true) :
    firstNamed (ascii "tag") (59 :: (ascii "tag=" ++ tag)) = some (ascii "tag=" ++ tag) ∧
      parameterValue (ascii "tag=" ++ tag) = tag := by
  have absent {byte : UInt8} (literal : byte ∉ ascii "tag=") (foreign : isTokenByte byte = false) :
      byte ∉ ascii "tag=" ++ tag := by
    rw [mem_append, not_or]
    exact ⟨literal, notMem_of_isToken token foreign⟩
  have whole : upTo (findFirstOf (ascii ";,") (ascii "tag=" ++ tag)) (ascii "tag=" ++ tag) =
      ascii "tag=" ++ tag := by
    rw [upTo_findFirstOf, takeWhile_eq_self_iff]
    intro byte member
    have semicolon : byte ≠ 59 := fun equal =>
      absent (by decide) (by decide) (equal ▸ member)
    have comma : byte ≠ 44 := fun equal => absent (by decide) (by decide) (equal ▸ member)
    rw [(by decide : ascii ";," = [59, 44])]
    simp [semicolon, comma]
  have equals : findByte 61 (ascii "tag=" ++ tag) = some 3 :=
    findByte_append (by decide : 61 ∉ ascii "tag") tag
  constructor
  · have only : parameters (59 :: (ascii "tag=" ++ tag)) = [ascii "tag=" ++ tag] := by
      rw [parameters, if_pos rfl, whole, ← append_nil (ascii "tag=" ++ tag),
        parameters_append_of_notMem (absent (by decide) (by decide))]
      rfl
    have named : iequals (parameterName (ascii "tag=" ++ tag)) (ascii "tag") = true := by
      unfold parameterName
      rw [equals]
      rfl
    rw [firstNamed, only]
    exact List.find?_cons_of_pos named
  · rw [parameterValue, equals]
    show unquoteParam (trim tag) = tag
    rw [trim_token token, unquoteParam_token token]

/-- The tag read is the header's own exactly when nothing stands before it. -/
theorem paramOf_nameAddr {tag : Bytes} (name uri : Bytes) (token : isToken tag = true) :
    paramOf (nameAddr name uri tag) "tag" = some tag ↔ TagFirst name uri tag := by
  have bracket : (62 : UInt8) ∈ escape name ++ ascii "\" <" ++ uri ++ ascii ">" :=
    mem_append_right _ (by decide)
  obtain ⟨place, found⟩ := Option.ne_none_iff_exists'.mp
    (fun absent => findByte_eq_none.mp absent bracket)
  obtain ⟨front, rest, cut, -, absent⟩ := findByte_eq_some found
  have behind : behindBracket name uri = rest := by
    have skipped : ∀ byte ∈ front, decide (byte ≠ 62) = true := fun byte member =>
      decide_eq_true fun equal => absent (equal ▸ member)
    unfold behindBracket
    rw [cut, dropWhile_append_of_pos skipped]
    rfl
  have whole : nameAddr name uri tag =
      (ascii "\"" ++ front) ++ 62 :: (rest ++ 59 :: (ascii "tag=" ++ tag)) := by
    have split : ascii ">;tag=" = ascii ">" ++ 59 :: ascii "tag=" := by decide
    calc nameAddr name uri tag
      _ = ascii "\"" ++ (escape name ++ ascii "\" <" ++ uri ++ ascii ">") ++
          59 :: (ascii "tag=" ++ tag) := by simp [nameAddr, split]
      _ = _ := by rw [cut]; simp
  obtain ⟨own, value⟩ := firstNamed_tag token
  have first : firstNamed (ascii "tag") (rest ++ 59 :: (ascii "tag=" ++ tag)) =
      (firstNamed (ascii "tag") rest).or (some (ascii "tag=" ++ tag)) := by
    rw [firstNamed, parameters_append (Or.inl rfl), List.find?_append]
    exact congrArg _ own
  have outside : (62 : UInt8) ∉ ascii "\"" ++ front := by
    rw [mem_append, not_or]
    exact ⟨by decide, absent⟩
  rw [whole, paramOf_behind outside, first, TagFirst, behind]
  cases firstNamed (ascii "tag") rest with
  | none => simp [value]
  | some parameter => simp

/-- The text before the brackets of an address header. -/
def quotedName (name : Bytes) : Bytes := 34 :: (escape name ++ [34])

theorem nameAddr_eq (name uri tag : Bytes) :
    nameAddr name uri tag =
      (quotedName name ++ [32]) ++ 60 :: (uri ++ 62 :: (ascii ";tag=" ++ tag)) := by
  have quote : ascii "\"" = [34] := by decide
  have opening : ascii "\" <" = [34, 32, 60] := by decide
  have closing : ascii ">;tag=" = 62 :: ascii ";tag=" := by decide
  simp [nameAddr, quotedName, quote, opening, closing]

theorem notMem_quotedName {name : Bytes} (absent : 60 ∉ name) : 60 ∉ quotedName name ++ [32] := by
  have inside : 60 ∉ escape name := fun member => absent ((mem_escape (by decide)).mp member)
  simp [quotedName, inside]

theorem uriOf_bracketed {front uri : Bytes} (absent : 60 ∉ front) (closed : 62 ∉ uri)
    (rest : Bytes) : uriOf (front ++ 60 :: (uri ++ 62 :: rest)) = trim uri := by
  have opening := findByte_append absent (uri ++ 62 :: rest)
  have closing : findByteFrom 62 front.length (front ++ 60 :: (uri ++ 62 :: rest)) =
      some ((60 :: uri).length + front.length) := by
    have outside : (62 : UInt8) ∉ 60 :: uri := by
      rw [mem_cons, not_or]
      exact ⟨by decide, closed⟩
    unfold findByteFrom
    rw [drop_left, ← cons_append, findByte_append outside]
    rfl
  have inside : (front ++ 60 :: (uri ++ 62 :: rest)).drop (front.length + 1) =
      uri ++ 62 :: rest := by
    rw [drop_length_add_append]
    rfl
  have length : (60 :: uri).length + front.length - front.length - 1 = uri.length := by
    rw [Nat.add_sub_cancel]
    rfl
  unfold uriOf
  dsimp only
  rw [opening]
  dsimp only
  rw [closing]
  dsimp only
  rw [inside, length, take_left]

theorem uriOf_nameAddr {name uri : Bytes} (absent : 60 ∉ name) (closed : 62 ∉ uri)
    (trimmed : trim uri = uri) (tag : Bytes) : uriOf (nameAddr name uri tag) = uri := by
  rw [nameAddr_eq, uriOf_bracketed (notMem_quotedName absent) closed, trimmed]

theorem unquote_subset (text : Bytes) : unquote text ⊆ text := by
  fun_induction unquote text with
  | case1 => exact List.Subset.refl _
  | case2 => exact nil_subset _
  | case3 escaped last rest hypothesis =>
    exact subset_cons_of_subset _ (cons_subset_cons _ hypothesis)
  | case4 byte next rest _ hypothesis => exact cons_subset_cons _ hypothesis

theorem notMem_displayNameOf (value : Bytes) : 60 ∉ displayNameOf value := by
  unfold displayNameOf
  cases found : findByte 60 value with
  | none => exact not_mem_nil
  | some opening =>
    obtain ⟨front, rest, rfl, rfl, absent⟩ := findByte_eq_some found
    have name : 60 ∉ trim front := fun member => absent (trim_subset front member)
    dsimp only
    rw [take_left]
    split
    · exact fun member => name (drop_subset _ _ (unquote_subset _ member))
    · exact name

/-- The display name is read back exactly when it holds no opening bracket. -/
theorem displayNameOf_nameAddr (name uri tag : Bytes) :
    displayNameOf (nameAddr name uri tag) = name ↔ 60 ∉ name := by
  refine ⟨fun equal => equal ▸ notMem_displayNameOf _, fun absent => ?_⟩
  have opening := findByte_append (notMem_quotedName absent) (uri ++ 62 :: (ascii ";tag=" ++ tag))
  have trimmed : trim (quotedName name ++ [32]) = quotedName name := by
    have front : (quotedName name ++ [32]).dropWhile isBlank = quotedName name ++ [32] :=
      dropWhile_cons_of_neg (by decide)
    have back := rdropWhile_kept (34 :: escape name) (by decide : isTrailing 34 = false) [32]
    rw [trim, front, quotedName, cons_append, append_assoc]
    exact back
  have quoted : 2 ≤ (quotedName name).length ∧ (quotedName name).head? = some 34 ∧
      (quotedName name).getLast? = some 34 := by
    refine ⟨?_, rfl, ?_⟩
    · simp [quotedName]
    · rw [quotedName, ← cons_append, List.getLast?_concat]
  unfold displayNameOf
  rw [nameAddr_eq, opening]
  dsimp only
  rw [take_left, trimmed, if_pos quoted]
  exact unquote_escape name

/-- An address header gives back its URI, its display name and its tag exactly when the display
name holds no opening bracket and no other tag comes before the header's own. -/
theorem nameAddr_readBack_iff {name uri tag : Bytes} (closed : 62 ∉ uri) (trimmed : trim uri = uri)
    (token : isToken tag = true) :
    (uriOf (nameAddr name uri tag) = uri ∧ displayNameOf (nameAddr name uri tag) = name ∧
        paramOf (nameAddr name uri tag) "tag" = some tag) ↔
      60 ∉ name ∧ TagFirst name uri tag := by
  rw [displayNameOf_nameAddr, paramOf_nameAddr name uri token]
  constructor
  · rintro ⟨-, absent, first⟩
    exact ⟨absent, first⟩
  · rintro ⟨absent, first⟩
    exact ⟨uriOf_nameAddr absent closed trimmed tag, absent, first⟩

/-- A display name with a closing bracket and a quote, before a URI without parameters. -/
theorem arrowName_readBack :
    uriOf (nameAddr (ascii "a \"->\" b") (ascii "sip:100@10.0.0.1") (ascii "77")) =
        ascii "sip:100@10.0.0.1" ∧
      displayNameOf (nameAddr (ascii "a \"->\" b") (ascii "sip:100@10.0.0.1") (ascii "77")) =
        ascii "a \"->\" b" ∧
      paramOf (nameAddr (ascii "a \"->\" b") (ascii "sip:100@10.0.0.1") (ascii "77")) "tag" =
        some (ascii "77") :=
  (nameAddr_readBack_iff (by decide) (by decide) (by decide)).mpr
    ⟨by decide, fun _ found => nomatch found.symm.trans (by decide +kernel :
      firstNamed (ascii "tag")
        (behindBracket (ascii "a \"->\" b") (ascii "sip:100@10.0.0.1")) = none)⟩

/-- The caller may choose a display name that shows another caller. -/
theorem bracketName_not_readBack :
    ¬ (uriOf (nameAddr (ascii "<sip:boss@10.0.0.1>") (ascii "sip:100@10.0.0.1") (ascii "77")) =
        ascii "sip:100@10.0.0.1" ∧
      displayNameOf
          (nameAddr (ascii "<sip:boss@10.0.0.1>") (ascii "sip:100@10.0.0.1") (ascii "77")) =
        ascii "<sip:boss@10.0.0.1>" ∧
      paramOf (nameAddr (ascii "<sip:boss@10.0.0.1>") (ascii "sip:100@10.0.0.1") (ascii "77"))
        "tag" = some (ascii "77")) := by
  decide +kernel

end KetPhone.Sip
