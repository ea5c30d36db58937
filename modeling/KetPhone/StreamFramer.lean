/-
This file models `sip/stream_framer.cpp`, which cuts SIP messages out of a byte
stream, and compares the length it cuts at with the one the message parser
reads.

Both sides look for the first Content-Length, but over different lines. The
parser first folds every line that starts with a blank onto the header before
it; the framer looks at the lines as they are. So the framer may take a folded
line for a Content-Length header, and it does not see what is folded onto a
real one. On every other head the two lengths agree.
-/

import KetPhone.Message

namespace KetPhone.Sip

open List

variable {rest : List Bytes} {parsed : Message} {message line : Bytes} (lines : List Bytes)
  (front : Headers)

/-! ### The framer -/

/-- Whether the framer takes a line for a Content-Length header. -/
def namesContentLength (line : Bytes) : Bool :=
  match findByte 58 line with
  | none => false
  | some colon =>
    let name := lowercase (trim (line.take colon))
    name == ascii "content-length" || name == ascii "l"

/-- The number after the colon of a line. -/
def lengthIn (line : Bytes) : Option Nat :=
  match findByte 58 line with
  | none => none
  | some colon => parseInteger 64 (line.drop (colon + 1))

/-- `content_length`: the first line after the start line that names it decides. -/
def contentLength (head : Bytes) : Option Nat :=
  (((splitLines head).drop 1).find? namesContentLength).bind lengthIn

structure StreamFramer where
  buffer : Bytes := []
  failed : Bool := false
  deriving DecidableEq, Repr

def kMaxMessage : Nat := 65536

def isLineEnd (byte : UInt8) : Bool := byte == 13 || byte == 10

namespace StreamFramer

def push (framer : StreamFramer) (bytes : Bytes) : StreamFramer :=
  if framer.failed then framer else { framer with buffer := framer.buffer ++ bytes }

def next (framer : StreamFramer) : Option Bytes × StreamFramer :=
  if framer.failed then (none, framer)
  else
    let buffer := framer.buffer.dropWhile isLineEnd
    match findText (ascii "\r\n\r\n") buffer with
    | none => (none, { buffer, failed := buffer.length > kMaxMessage })
    | some headEnd =>
      match contentLength (buffer.take headEnd) with
      | none => (none, { buffer, failed := true })
      | some length =>
        if length > kMaxMessage ∨ headEnd + 4 + length > kMaxMessage then
          (none, { buffer, failed := true })
        else
          let total := headEnd + 4 + length
          if buffer.length < total then (none, { buffer, failed := false })
          else (some (buffer.take total), { buffer := buffer.drop total, failed := false })

def reset (_ : StreamFramer) : StreamFramer := {}

/-- What a connection does with its framer. -/
inductive Op where
  | push (bytes : Bytes)
  | next
  | reset
  deriving DecidableEq, Repr

def step (framer : StreamFramer) : Op → Option Bytes × StreamFramer
  | .push bytes => (none, framer.push bytes)
  | .next => framer.next
  | .reset => (none, framer.reset)

/-- The messages a framer returns over a list of operations. -/
def messages (framer : StreamFramer) : List Op → List Bytes
  | [] => []
  | op :: rest => (framer.step op).1.toList ++ messages (framer.step op).2 rest

end StreamFramer

/-! ### What is promised of a message the framer returns -/

/-- If the parser accepts the start line and the header lines, it reads a Content-Length equal
to what follows the head, and returns exactly that as the body. -/
def BodyRead (message : Bytes) : Prop :=
  ∀ parsed, parseHead (splitHead message).1 = some parsed →
    parsed.contentLength = some (some (splitHead message).2.length) ∧
      parseMessage message = some { parsed with body := (splitHead message).2 }

/-- The first line that is a Content-Length header for the parser, with the lines after it:
empty lines and lines folded onto an earlier header do not count. -/
def headerLine : Bool → List Bytes → Option (Bytes × List Bytes)
  | _, [] => none
  | seen, line :: rest =>
    if line = [] ∨ (startsBlank line ∧ seen) then headerLine seen rest
    else if namesContentLength line then some (line, rest)
    else headerLine true rest

/-- The value a header line gives before anything is folded onto it. -/
def headerValue (line : Bytes) : Bytes :=
  match findByte 58 line with
  | none => []
  | some colon => trim (line.drop (colon + 1))

/-- The lines folded onto the header before them. -/
def foldedLines (rest : List Bytes) : List Bytes :=
  rest.takeWhile fun line => line.isEmpty || startsBlank line

/-- What the folded lines that follow add to a value. -/
def continuation (rest : List Bytes) : Bytes :=
  (foldedLines rest).flatMap fun line => if line = [] then [] else ascii " " ++ trim line

/-- The first line that names Content-Length is a header of its own, and only blanks are folded
onto it. -/
def LengthUnfolded (head : Bytes) : Prop :=
  ∃ line rest, headerLine false ((splitLines head).drop 1) = some (line, rest) ∧
    ((splitLines head).drop 1).find? namesContentLength = some line ∧
    ∀ folded ∈ foldedLines rest, trim folded = []

/-- The first line that names Content-Length is folded onto another header, but the first
Content-Length header, with what is folded onto it, happens to repeat its number. -/
def LengthRepeated (head : Bytes) : Prop :=
  ∃ folded line rest number,
    ((splitLines head).drop 1).find? namesContentLength = some folded ∧
    headerLine false ((splitLines head).drop 1) = some (line, rest) ∧ folded ≠ line ∧
    fromChars 64 (headerValue folded) = some number ∧
    parseInteger 64 (headerValue line ++ continuation rest) = some number

/-! ### The header the parser reads -/

theorem value_append (back : Headers) (name : Bytes) :
    Headers.value (front ++ back) name = (front.value name).or (back.value name) := by
  unfold Headers.value
  rw [List.find?_append]
  cases front.find? fun entry => entry.1 == name <;> rfl

theorem value_cons_self (name value : Bytes) (rest : Headers) :
    Headers.value ((name, value) :: rest) name = some value := by
  unfold Headers.value
  rw [List.find?_cons_of_pos (by simp)]
  rfl

theorem value_cons_ne {name other : Bytes} (value : Bytes) (rest : Headers)
    (different : other ≠ name) :
    Headers.value ((other, value) :: rest) name = rest.value name := by
  unfold Headers.value
  rw [List.find?_cons_of_neg (by simpa using different)]

theorem foldOntoLast_append (line : Bytes) (front : Headers) (name value : Bytes) :
    foldOntoLast line (front ++ [(name, value)]) =
      front ++ [(name, value ++ ascii " " ++ trim line)] := by
  induction front with
  | nil => rfl
  | cons entry rest hypothesis =>
    cases rest with
    | nil => rfl
    | cons next rest =>
      rw [cons_append, cons_append, foldOntoLast, ← cons_append,
        hypothesis, cons_append, cons_append, cons_append]

theorem fullHeaderName_eq_contentLength (raw : Bytes) :
    fullHeaderName raw = ascii "content-length" ↔
      lowercase (trim raw) = ascii "content-length" ∨ lowercase (trim raw) = ascii "l" := by
  unfold fullHeaderName
  dsimp only
  split
  · rename_i entry found
    have key : entry.1 = lowercase (trim raw) := by simpa using List.find?_some found
    have table : ∀ entry ∈ compactNames, entry.1 ≠ ascii "content-length" ∧
        (entry.2 = ascii "content-length" ↔ entry.1 = ascii "l") := by decide
    obtain ⟨short, expands⟩ := table entry (mem_of_find?_eq_some found)
    rw [← key, or_iff_right short]
    exact expands
  · rename_i missing
    refine (or_iff_left fun letter => ?_).symm
    rw [letter] at missing
    exact absurd missing (by decide)

/-- The three outcomes of a line the parser accepts. -/
theorem addHeaderLine_cases {headers next : Headers}
    (added : addHeaderLine headers line = some next) :
    (line = [] ∧ next = headers) ∨
      (line ≠ [] ∧ startsBlank line = true ∧ headers ≠ [] ∧ next = foldOntoLast line headers) ∨
      (line ≠ [] ∧ ¬ (startsBlank line = true ∧ headers ≠ []) ∧
        ∃ name, next = headers ++ [(name, headerValue line)] ∧
          (name = ascii "content-length" ↔ namesContentLength line = true)) := by
  unfold addHeaderLine at added
  by_cases empty : line = []
  · rw [if_pos empty] at added
    exact Or.inl ⟨empty, (Option.some.inj added).symm⟩
  rw [if_neg empty] at added
  by_cases folded : startsBlank line = true ∧ headers ≠ []
  · rw [if_pos folded] at added
    exact Or.inr (Or.inl ⟨empty, folded.1, folded.2, (Option.some.inj added).symm⟩)
  rw [if_neg folded] at added
  refine Or.inr (Or.inr ⟨empty, folded, ?_⟩)
  cases colon : findByte 58 line with
  | none =>
    rw [colon] at added
    cases added
  | some place =>
    rw [colon] at added
    cases place with
    | zero => cases added
    | succ place =>
      refine ⟨fullHeaderName (line.take (place + 1)), ?_, ?_⟩
      · rw [headerValue, colon]
        exact (Option.some.inj added).symm
      · rw [fullHeaderName_eq_contentLength, namesContentLength, colon, Bool.or_eq_true,
          beq_iff_eq, beq_iff_eq]

theorem value_of_settled (back : Headers) (entry : Bytes × Bytes) (name value : Bytes)
    (final : Headers) (fresh : front.value name = none)
    (parsed : lines.foldlM addHeaderLine (front ++ (name, value) :: back ++ [entry]) = some final) :
    final.value name = some value := by
  induction lines generalizing back entry with
  | nil =>
    rw [← Option.some.inj parsed, append_assoc, value_append, fresh, Option.none_or,
      cons_append, value_cons_self]
  | cons line lines hypothesis =>
    rw [foldlM_cons] at parsed
    obtain ⟨next, added, rest⟩ := Option.bind_eq_some_iff.mp parsed
    rcases addHeaderLine_cases added with ⟨-, rfl⟩ | ⟨-, -, -, rfl⟩ | ⟨-, -, other, rfl, -⟩
    · exact hypothesis back entry rest
    · obtain ⟨entryName, entryValue⟩ := entry
      rw [foldOntoLast_append] at rest
      exact hypothesis back _ rest
    · refine hypothesis (back ++ [entry]) (other, headerValue line) ?_
      rw [← cons_append, ← append_assoc]
      exact rest

/-- While it is the last header, a Content-Length header grows by what is folded onto it. -/
theorem value_of_last (name value : Bytes) (final : Headers) (fresh : front.value name = none)
    (parsed : lines.foldlM addHeaderLine (front ++ [(name, value)]) = some final) :
    final.value name = some (value ++ continuation lines) := by
  induction lines generalizing value with
  | nil =>
    rw [← Option.some.inj parsed, value_append, fresh, Option.none_or, value_cons_self]
    exact congrArg some (List.append_nil value).symm
  | cons line lines hypothesis =>
    rw [List.foldlM_cons] at parsed
    obtain ⟨next, added, rest⟩ := Option.bind_eq_some_iff.mp parsed
    rcases addHeaderLine_cases added with ⟨rfl, rfl⟩ | ⟨nonempty, blank, -, rfl⟩ |
      ⟨nonempty, own, other, rfl, -⟩
    · exact hypothesis value rest
    · rw [foldOntoLast_append] at rest
      rw [hypothesis _ rest]
      unfold continuation foldedLines
      rw [List.takeWhile_cons_of_pos (by rw [blank, Bool.or_true]), List.flatMap_cons,
        if_neg nonempty, List.append_assoc, List.append_assoc, List.append_assoc]
    · rw [value_of_settled lines front [] (other, headerValue line) name value final fresh rest]
      have unfolded : startsBlank line = false := by
        refine Bool.eq_false_iff.mpr fun blank => own ⟨blank, ?_⟩
        exact List.append_ne_nil_of_right_ne_nil _ (List.cons_ne_nil _ _)
      unfold continuation foldedLines
      rw [List.takeWhile_cons_of_neg (by
        rw [unfolded, Bool.or_false, List.isEmpty_iff]
        exact nonempty), List.flatMap_nil, List.append_nil]

/-- The Content-Length the parser ends up with comes from the first header line of its own
that names it, with what is folded onto it. -/
theorem value_of_headerLine (headers : Headers) (final : Headers) (seen : Bool)
    (any : seen = true ↔ headers ≠ []) (fresh : headers.value (ascii "content-length") = none)
    (parsed : lines.foldlM addHeaderLine headers = some final) :
    final.value (ascii "content-length") =
      (headerLine seen lines).map fun found => headerValue found.1 ++ continuation found.2 := by
  induction lines generalizing headers seen with
  | nil =>
    rw [← Option.some.inj parsed, fresh]
    rfl
  | cons line lines hypothesis =>
    rw [foldlM_cons] at parsed
    obtain ⟨next, added, rest⟩ := Option.bind_eq_some_iff.mp parsed
    rw [headerLine]
    rcases addHeaderLine_cases added with ⟨rfl, rfl⟩ | ⟨nonempty, blank, earlier, rfl⟩ |
      ⟨nonempty, own, other, rfl, named⟩
    · rw [if_pos (Or.inl rfl)]
      exact hypothesis next seen any fresh rest
    · rw [if_pos (Or.inr ⟨blank, any.mpr earlier⟩)]
      obtain ⟨front, ⟨lastName, lastValue⟩, split⟩ :=
        eq_nil_or_concat headers |>.resolve_left earlier
      subst split
      rw [concat_eq_append] at *
      rw [foldOntoLast_append] at rest
      refine hypothesis _ seen ?_ ?_ rest
      · rw [any]
        exact iff_of_true earlier (append_ne_nil_of_right_ne_nil _ (cons_ne_nil _ _))
      · rw [value_append] at fresh ⊢
        rw [Option.or_eq_none_iff] at fresh ⊢
        refine ⟨fresh.1, ?_⟩
        by_cases same : lastName = ascii "content-length"
        · rw [same, value_cons_self] at fresh
          exact absurd fresh.2 (by simp)
        · rw [value_cons_ne _ _ same]
          rfl
    · have unfolded : ¬ (line = [] ∨ (startsBlank line = true ∧ seen = true)) := by
        rintro (empty | ⟨blank, earlier⟩)
        · exact nonempty empty
        · exact own ⟨blank, any.mp earlier⟩
      rw [if_neg unfolded]
      by_cases isLength : namesContentLength line = true
      · rw [if_pos isLength, Option.map_some]
        rw [named.mpr isLength] at rest
        exact value_of_last lines headers _ _ final fresh rest
      · rw [if_neg isLength]
        refine hypothesis _ true ?_ ?_ rest
        · exact iff_of_true rfl (append_ne_nil_of_right_ne_nil _ (cons_ne_nil _ _))
        · rw [value_append, fresh, Option.none_or,
            value_cons_ne _ _ (fun same => isLength (named.mp same))]
          rfl

/-! ### The number in a continued value -/

theorem lengthIn_eq_fromChars (named : namesContentLength line = true) :
    lengthIn line = fromChars 64 (headerValue line) := by
  unfold namesContentLength at named
  unfold lengthIn headerValue
  cases colon : findByte 58 line with
  | none =>
    rw [colon] at named
    cases named
  | some place => rfl

theorem trim_headerValue (line : Bytes) : trim (headerValue line) = headerValue line := by
  unfold headerValue
  split
  · rfl
  · exact trim_trim _

theorem parseInteger_continued {value : Bytes} {number : Nat} (trimmed : trim value = value)
    (read : fromChars 64 value = some number)
    (blank : ∀ folded ∈ foldedLines rest, trim folded = []) :
    parseInteger 64 (value ++ continuation rest) = some number := by
  have spaces : ∀ byte ∈ continuation rest, isBlank byte = true := by
    intro byte member
    obtain ⟨folded, inRest, inside⟩ := mem_flatMap.mp member
    split at inside
    · cases inside
    · rw [blank folded inRest, append_nil] at inside
      rw [mem_singleton.mp inside]
      decide
  rw [parseInteger, trim_append_blanks trimmed (fromChars_eq_some read).1 spaces, read]

/-- A folded line that is not blank leaves a space inside the value, which is then no number. -/
theorem parseInteger_broken {value : Bytes} {number : Nat} (read : fromChars 64 value = some number)
    {folded : Bytes} (member : folded ∈ foldedLines rest) (text : trim folded ≠ []) :
    parseInteger 64 (value ++ continuation rest) = none := by
  obtain ⟨before, after, split⟩ := append_of_mem member
  obtain ⟨nonempty, digits, -⟩ := fromChars_eq_some read
  have notEmpty : folded ≠ [] := by
    rintro rfl
    exact text rfl
  obtain ⟨tail, shape⟩ : ∃ tail, continuation rest =
      (before.flatMap fun line => if line = [] then [] else ascii " " ++ trim line) ++ [32] ++
        (trim folded ++ tail) := by
    refine ⟨after.flatMap fun line => if line = [] then [] else ascii " " ++ trim line, ?_⟩
    rw [continuation, split, flatMap_append, flatMap_cons, if_neg notEmpty,
      append_assoc, append_assoc]
    rfl
  have front : (value ++ continuation rest).dropWhile isBlank = value ++ continuation rest := by
    cases value with
    | nil => exact absurd rfl nonempty
    | cons byte value =>
      have digit := all_eq_true.mp digits byte mem_cons_self
      have kept : isBlank byte = false := by
        refine Bool.eq_false_iff.mpr fun blank => ?_
        have trailing := isTrailing_of_isBlank blank
        rw [isDigit_not_isTrailing digit] at trailing
        cases trailing
      rw [cons_append, dropWhile_cons_of_neg (by rw [kept]; decide)]
  have kept : ∃ byte ∈ trim folded ++ tail, isTrailing byte = false := by
    obtain ⟨byte, inside, keep⟩ := exists_kept_of_trim_ne_nil text
    exact ⟨byte, mem_append_left _ inside, keep⟩
  refine fromChars_eq_none_of_mem (?_ : (32 : UInt8) ∈ _) (by decide)
  rw [trim, front, shape, ← append_assoc, rdropWhile_append_of_not _ kept]
  exact mem_append_left _ (mem_append_right _ (mem_append_right _ (by simp)))

/-! ### The message the framer cuts -/

theorem findText_take {needle text : Bytes} {place size : Nat}
    (found : findText needle text = some place) (inside : place + needle.length ≤ size) :
    findText needle (text.take size) = some place := by
  induction text generalizing place size with
  | nil =>
    rw [take_nil]
    exact found
  | cons byte rest hypothesis =>
    rw [findText_cons] at found
    split at found
    next starts =>
      cases found
      have starts' : needle <+: (byte :: rest).take size := by
        rw [prefix_take_iff]
        exact ⟨starts, by omega⟩
      cases size with
      | zero =>
        have empty : needle = [] := eq_nil_of_length_eq_zero (by omega)
        rw [empty]
        rfl
      | succ size =>
        rw [take_succ_cons] at starts' ⊢
        rw [findText_cons, if_pos starts']
    next later =>
      obtain ⟨index, foundRest, rfl⟩ := Option.map_eq_some_iff.mp found
      cases size with
      | zero => omega
      | succ size =>
        have notHere : ¬ needle <+: byte :: rest.take size := by
          intro starts
          rw [← take_succ_cons] at starts
          exact later <| starts.trans <| take_prefix _ _
        rw [take_succ_cons, findText_cons, if_neg notHere,
          hypothesis foundRest (by omega), Option.map_some]

/-- A message the framer returns splits into a head and as many bytes as the framer read in
that head. -/
theorem next_returns {framer : StreamFramer} (returned : framer.next.1 = some message) :
    contentLength (splitHead message).1 = some (splitHead message).2.length := by
  unfold StreamFramer.next at returned
  split at returned
  · cases returned
  · simp only at returned
    split at returned
    · cases returned
    · rename_i headEnd found
      split at returned
      · cases returned
      · rename_i length read
        split at returned
        · cases returned
        · split at returned
          · cases returned
          · rename_i long
            have cut := Option.some.inj returned
            have place : findText (ascii "\r\n\r\n") message = some headEnd := by
              rw [← cut]
              refine findText_take found ?_
              rw [show (ascii "\r\n\r\n").length = 4 by decide]
              omega
            have parts : splitHead message =
                (message.take headEnd, message.drop (headEnd + 4)) := by
              rw [splitHead, place]
            have size : message.length = headEnd + 4 + length := by
              rw [← cut, length_take]
              omega
            have head : message.take headEnd =
                (framer.buffer.dropWhile isLineEnd).take headEnd := by
              rw [← cut, take_take, Nat.min_eq_left (by omega)]
            rw [parts]
            dsimp only
            rw [head, read, length_drop, size]
            refine congrArg some ?_
            omega

theorem bodyRead_of_contentLength (accepted : parseHead (splitHead message).1 = some parsed)
    (length : parsed.contentLength = some (some (splitHead message).2.length)) :
    parseMessage message = some { parsed with body := (splitHead message).2 } := by
  unfold parseMessage
  dsimp only
  rw [accepted, Option.bind_some, Message.withBody, length]
  dsimp only
  rw [if_neg (Nat.lt_irrefl _), take_length]

theorem contentLength_of_parseHead {head : Bytes} (accepted : parseHead head = some parsed) :
    parsed.contentLength = (headerLine false ((splitLines head).drop 1)).map fun found =>
      parseInteger 64 (headerValue found.1 ++ continuation found.2) := by
  unfold parseHead at accepted
  split at accepted
  · cases accepted
  · rename_i start lines split
    obtain ⟨message, -, rest⟩ := Option.bind_eq_some_iff.mp accepted
    obtain ⟨headers, folded, built⟩ := Option.bind_eq_some_iff.mp rest
    cases built
    rw [split, Message.contentLength, Message.header]
    dsimp only
    rw [value_of_headerLine lines [] headers false (by simp) rfl folded, Option.map_map]
    rfl

/-- On a message the framer returned and whose head the parser accepts, the two agree exactly
when the length is not folded, or is folded and repeated. -/
theorem bodyRead_iff_of_framed
    (framed : contentLength (splitHead message).1 = some (splitHead message).2.length)
    (accepted : parseHead (splitHead message).1 = some parsed) :
    BodyRead message ↔
      LengthUnfolded (splitHead message).1 ∨ LengthRepeated (splitHead message).1 := by
  have length := contentLength_of_parseHead accepted
  obtain ⟨first, named, said⟩ := Option.bind_eq_some_iff.mp framed
  rw [lengthIn_eq_fromChars (find?_some named)] at said
  constructor
  · intro reads
    have agreed := (reads parsed accepted).1
    rw [length] at agreed
    obtain ⟨⟨line, rest⟩, found, number⟩ := Option.map_eq_some_iff.mp agreed
    by_cases own : first = line
    · subst own
      refine Or.inl ⟨first, rest, found, named, fun folded member => ?_⟩
      by_contra text
      rw [parseInteger_broken said member text] at number
      cases number
    · exact Or.inr ⟨first, line, rest, _, named, found, own, said, number⟩
  · intro agrees other otherAccepted
    rw [accepted] at otherAccepted
    cases otherAccepted
    have reads : parsed.contentLength = some (some (splitHead message).2.length) := by
      rw [length]
      rcases agrees with
        ⟨line, rest, found, own, blank⟩ |
        ⟨folded, line, rest, number, own, found, -, repeated, same⟩
      · cases named.symm.trans own
        rw [found, Option.map_some, parseInteger_continued (trim_headerValue first) said blank]
      · cases named.symm.trans own
        rw [found, Option.map_some, same, ← repeated, said]
    exact ⟨reads, bodyRead_of_contentLength accepted reads⟩

/-- The framer and the parser agree on where a message of any stream ends exactly when its
Content-Length is not folded, or is folded and repeated. -/
theorem framed_bodyRead_iff (framer : StreamFramer) (ops : List StreamFramer.Op) (message : Bytes)
    (returned : message ∈ framer.messages ops) :
    BodyRead message ↔
      ((∃ parsed, parseHead (splitHead message).1 = some parsed) →
        LengthUnfolded (splitHead message).1 ∨ LengthRepeated (splitHead message).1) := by
  have framed : contentLength (splitHead message).1 = some (splitHead message).2.length := by
    induction ops generalizing framer with
    | nil => cases returned
    | cons op ops hypothesis =>
      rcases mem_append.mp returned with now | later
      · cases op with
        | push bytes => cases now
        | next => exact next_returns (Option.mem_toList.mp now)
        | reset => cases now
      · exact hypothesis _ later
  constructor
  · rintro reads ⟨parsed, accepted⟩
    exact (bodyRead_iff_of_framed framed accepted).mp reads
  · intro agrees parsed accepted
    exact (bodyRead_iff_of_framed framed accepted).mpr (agrees ⟨parsed, accepted⟩) parsed accepted

/-- A request with one Content-Length header, as every well-behaved peer sends it. -/
def plainLength : Bytes :=
  ascii "OPTIONS sip:a SIP/2.0\r\nSubject: x\r\nl: 5\r\n\r\nhello"

theorem plainLength_bodyRead : BodyRead plainLength := by
  refine (framed_bodyRead_iff {} [.push plainLength, .next] plainLength
    (by decide +kernel)).mpr fun _ => ?_
  exact Or.inl ⟨ascii "l: 5", [], by decide +kernel, by decide +kernel, by decide⟩

/-- A request whose subject is folded and continues with the words `Content-Length: 5`. -/
def foldedLength : Bytes :=
  ascii "OPTIONS sip:a SIP/2.0\r\nSubject: x\r\n Content-Length: 5\r\n" ++
    ascii "Content-Length: 0\r\n\r\nhello"

/-- The framer cuts the message after five bytes of body, of which the parser drops all. -/
theorem foldedLength_not_bodyRead :
    foldedLength ∈ StreamFramer.messages {} [.push foldedLength, .next] ∧
      ¬ BodyRead foldedLength := by
  refine ⟨by decide +kernel, fun reads => ?_⟩
  have accepted : parseHead (splitHead foldedLength).1 = some {
      method := ascii "OPTIONS"
      uri := ascii "sip:a"
      headers := [(ascii "subject", ascii "x Content-Length: 5"),
        (ascii "content-length", ascii "0")] } := by decide +kernel
  exact absurd (reads _ accepted).1 (by decide +kernel)

end KetPhone.Sip
