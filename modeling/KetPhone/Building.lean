/-
This file follows built messages back through the parser and the stream framer.
A built head is a list of lines with CRLF between them. No line holds a line
feed, so the first empty line is the one the builder writes, wherever else the
body may have one; the lines come out as they went in; and the only line that
names Content-Length is the builder's own. From this the parser returns what was
built, and the framer cuts a stream of built messages where they were joined.
-/

import KetPhone.Framing

namespace KetPhone.Sip

open List

variable {entry : Bytes × Bytes} {name : Bytes}

/-! ### The lines of a built message -/

namespace MessageBuilder

/-- A header as it is written. -/
def headerText (entry : Bytes × Bytes) : Bytes := entry.1 ++ ascii ": " ++ entry.2

/-- The lines before the one with Content-Length. -/
def leadingLines (builder : MessageBuilder) : List Bytes :=
  builder.startLine :: builder.headers.map headerText ++
    if builder.body = [] then [] else [headerText (ascii "Content-Type", builder.contentType)]

/-- The line with Content-Length. -/
def lengthLine (builder : MessageBuilder) : Bytes :=
  headerText (ascii "Content-Length", decimal builder.body.length)

/-- Everything before the empty line. -/
def head (builder : MessageBuilder) : Bytes :=
  builder.leadingLines.flatMap (· ++ ascii "\r\n") ++ builder.lengthLine

/-- What the builder may be given: lines without line feeds, a start line, and headers whose names
are tokens and leave Content-Length to the builder. -/
structure Sound (builder : MessageBuilder) : Prop where
  startLine : builder.startLine ≠ [] ∧ 10 ∉ builder.startLine
  names : ∀ entry ∈ builder.headers, isToken entry.1 = true ∧
    lowercase entry.1 ≠ ascii "content-length" ∧ lowercase entry.1 ≠ ascii "l"
  values : ∀ entry ∈ builder.headers, 10 ∉ entry.2
  contentType : builder.body ≠ [] → 10 ∉ builder.contentType

theorem build_eq (builder : MessageBuilder) :
    builder.build = builder.head ++ ascii "\r\n\r\n" ++ builder.body := by
  unfold build head leadingLines lengthLine headerText
  have twice : ascii "\r\n\r\n" = ascii "\r\n" ++ ascii "\r\n" := by decide
  have type : ascii "Content-Type: " = ascii "Content-Type" ++ ascii ": " := by decide
  have length : ascii "Content-Length: " = ascii "Content-Length" ++ ascii ": " := by decide
  rw [twice, type, length]
  split <;> simp [flatMap_map]

end MessageBuilder

/-! ### The first empty line -/

theorem findText_line {line : Bytes} (absent : 10 ∉ line) (rest : Bytes) :
    findText (ascii "\r\n\r\n") (line ++ 13 :: 10 :: rest) =
      (findText (ascii "\r\n\r\n") (13 :: 10 :: rest)).map (· + line.length) := by
  have needle : ascii "\r\n\r\n" = [13, 10, 13, 10] := by decide
  induction line with
  | nil => simp
  | cons byte line hypothesis =>
    rw [mem_cons, not_or] at absent
    have notHere : ¬ (ascii "\r\n\r\n").isPrefixOf (byte :: (line ++ 13 :: 10 :: rest)) = true := by
      rw [needle]
      cases line with
      | nil => simp [List.isPrefixOf]
      | cons next line =>
        rw [mem_cons, not_or] at absent
        simp [List.isPrefixOf, absent.2.1]
    rw [cons_append, findText, if_neg notHere, hypothesis absent.2, Option.map_map,
      length_cons]
    rfl

theorem findText_crlf_line {line : Bytes} (nonempty : line ≠ []) (absent : 10 ∉ line)
    (rest : Bytes) :
    findText (ascii "\r\n\r\n") (13 :: 10 :: (line ++ 13 :: 10 :: rest)) =
      (findText (ascii "\r\n\r\n") (line ++ 13 :: 10 :: rest)).map (· + 2) := by
  have needle : ascii "\r\n\r\n" = [13, 10, 13, 10] := by decide
  have first : ¬ (ascii "\r\n\r\n").isPrefixOf (13 :: 10 :: (line ++ 13 :: 10 :: rest)) = true := by
    rw [needle]
    match line, nonempty with
    | [byte], _ => simp [List.isPrefixOf]
    | byte :: next :: line, _ =>
      simp only [mem_cons, not_or] at absent
      simp [List.isPrefixOf, absent.2.1]
  have second : ¬ (ascii "\r\n\r\n").isPrefixOf (10 :: (line ++ 13 :: 10 :: rest)) = true := by
    rw [needle]
    simp [List.isPrefixOf]
  rw [findText, if_neg first, findText, if_neg second, Option.map_map]
  rfl

/-- The first empty line is the one after the lines. -/
theorem findText_lines {lines : List Bytes} {last : Bytes}
    (nonempty : ∀ line ∈ lines, line ≠ []) (absent : ∀ line ∈ lines, 10 ∉ line)
    (lastNonempty : last ≠ []) (lastAbsent : 10 ∉ last) (body : Bytes) :
    findText (ascii "\r\n\r\n")
        (lines.flatMap (· ++ ascii "\r\n") ++ last ++ ascii "\r\n\r\n" ++ body) =
      some (lines.flatMap (· ++ ascii "\r\n") ++ last).length := by
  have crlf : ascii "\r\n" = [13, 10] := by decide
  have twice : ascii "\r\n\r\n" = [13, 10, 13, 10] := by decide
  induction lines with
  | nil =>
    have found := findText_line lastAbsent (13 :: 10 :: body)
    rw [show findText (ascii "\r\n\r\n") (13 :: 10 :: 13 :: 10 :: body) = some 0 by
      rw [twice]; simp [findText, List.isPrefixOf]] at found
    simpa [twice] using found
  | cons line lines hypothesis =>
    have later := hypothesis
      (fun other member => nonempty other (mem_cons_of_mem _ member))
      fun other member => absent other (mem_cons_of_mem _ member)
    have lineAbsent := absent line mem_cons_self
    -- What follows the line starts with another line, so its CRLF does not begin an empty one.
    obtain ⟨next, rest, follows, nextNonempty, nextAbsent⟩ : ∃ next rest,
        lines.flatMap (· ++ ascii "\r\n") ++ last ++ ascii "\r\n\r\n" ++ body =
          next ++ 13 :: 10 :: rest ∧ next ≠ [] ∧ 10 ∉ next := by
      cases lines with
      | nil => exact ⟨last, 13 :: 10 :: body, by simp [twice], lastNonempty, lastAbsent⟩
      | cons next lines =>
        exact ⟨next, lines.flatMap (· ++ ascii "\r\n") ++ last ++ ascii "\r\n\r\n" ++ body,
          by simp [crlf], nonempty next (by simp), absent next (by simp)⟩
    have whole : (line :: lines).flatMap (· ++ ascii "\r\n") ++ last ++ ascii "\r\n\r\n" ++ body =
        line ++ 13 :: 10 :: (next ++ 13 :: 10 :: rest) := by
      rw [← follows]
      simp [crlf]
    rw [follows] at later
    rw [whole, findText_line lineAbsent, findText_crlf_line nextNonempty nextAbsent, later]
    simp [crlf]
    omega

theorem splitLines_lines {lines : List Bytes} {last : Bytes} (absent : ∀ line ∈ lines, 10 ∉ line)
    (lastNonempty : last ≠ []) (lastAbsent : 10 ∉ last) (kept : last.getLast? ≠ some 13) :
    splitLines (lines.flatMap (· ++ ascii "\r\n") ++ last) = lines ++ [last] := by
  induction lines with
  | nil => exact splitLines_last lastNonempty lastAbsent kept
  | cons line lines hypothesis =>
    rw [flatMap_cons, append_assoc, splitLines_cons (absent line mem_cons_self),
      hypothesis fun other member => absent other (mem_cons_of_mem _ member),
      cons_append]

/-! ### Names -/

theorem isTokenByte_plain {byte : UInt8} (token : isTokenByte byte = true) :
    isTrailing byte = false ∧ byte ≠ 10 ∧ byte ≠ 32 ∧ byte ≠ 47 ∧ byte ≠ 58 := by
  have kept {other : UInt8} (foreign : isTokenByte other = false) : byte ≠ other := by
    rintro rfl
    exact nomatch token.symm.trans foreign
  refine ⟨?_, kept (by decide), kept (by decide), kept (by decide), kept (by decide)⟩
  unfold isTrailing
  rw [beq_false_of_ne (kept (by decide)), beq_false_of_ne (kept (by decide)),
    beq_false_of_ne (kept (by decide))]
  rfl

theorem isToken_bytes (token : isToken name = true) :
    name ≠ [] ∧ ∀ byte ∈ name, isTokenByte byte = true := by
  unfold isToken at token
  rw [Bool.and_eq_true, all_eq_true] at token
  refine ⟨?_, token.2⟩
  rintro rfl
  exact absurd token.1 (by decide)

theorem notMem_of_isToken {text : Bytes} (token : isToken text = true) {byte : UInt8}
    (foreign : isTokenByte byte = false) : byte ∉ text := by
  intro member
  exact nomatch ((isToken_bytes token).2 byte member).symm.trans foreign

theorem trim_token (token : isToken name = true) : trim name = name :=
  trim_eq_self fun byte member => (isTokenByte_plain ((isToken_bytes token).2 byte member)).1

theorem notMem_token (token : isToken name = true) :
    10 ∉ name ∧ 32 ∉ name ∧ 47 ∉ name ∧ 58 ∉ name := by
  have plain (byte : UInt8) (member : byte ∈ name) :=
    isTokenByte_plain ((isToken_bytes token).2 byte member)
  exact ⟨fun member => (plain _ member).2.1 rfl, fun member => (plain _ member).2.2.1 rfl,
    fun member => (plain _ member).2.2.2.1 rfl, fun member => (plain _ member).2.2.2.2 rfl⟩

/-- A name in lowercase and in full. -/
def canonicalName (name : Bytes) : Bytes :=
  (compactNames.lookup (lowercase name)).getD (lowercase name)

theorem fullHeaderName_token (token : isToken name = true) :
    fullHeaderName name = canonicalName name := by
  have lookup (table : List (Bytes × Bytes)) (key : Bytes) :
      table.lookup key = (table.find? fun entry => entry.1 == key).map Prod.snd := by
    induction table with
    | nil => rfl
    | cons entry table hypothesis =>
      rw [lookup_cons, List.find?_cons, hypothesis, BEq.comm]
      cases entry.1 == key <;> rfl
  unfold fullHeaderName canonicalName
  rw [trim_token token, lookup]
  dsimp only
  cases compactNames.find? fun entry => entry.1 == lowercase name <;> rfl

/-! ### One header line -/

theorem findByte_headerText (token : isToken entry.1 = true) :
    findByte 58 (MessageBuilder.headerText entry) = some entry.1.length := by
  have line : MessageBuilder.headerText entry = entry.1 ++ 58 :: 32 :: entry.2 := by
    unfold MessageBuilder.headerText
    rw [show ascii ": " = [58, 32] by decide, append_assoc]
    rfl
  rw [line]
  exact findByte_append (notMem_token token).2.2.2 _

theorem take_headerText (entry : Bytes × Bytes) :
    (MessageBuilder.headerText entry).take entry.1.length = entry.1 := by
  unfold MessageBuilder.headerText
  rw [append_assoc, take_left]

theorem drop_headerText (entry : Bytes × Bytes) :
    (MessageBuilder.headerText entry).drop (entry.1.length + 1) = 32 :: entry.2 := by
  unfold MessageBuilder.headerText
  rw [append_assoc, drop_length_add_append]
  rfl

/-- The parser reads a header line back, up to blanks around the value. -/
theorem addHeaderLine_headerText (headers : Headers) (token : isToken entry.1 = true) :
    addHeaderLine headers (MessageBuilder.headerText entry) =
      some (headers ++ [(canonicalName entry.1, trim entry.2)]) := by
  obtain ⟨nonempty, bytes⟩ := isToken_bytes token
  obtain ⟨first, rest, name⟩ := exists_cons_of_ne_nil nonempty
  have line : MessageBuilder.headerText entry = first :: (rest ++ ascii ": " ++ entry.2) := by
    unfold MessageBuilder.headerText
    rw [name]
    rfl
  have front : isBlank first = false := not_isBlank_of_not_isTrailing
    (isTokenByte_plain (bytes first (by rw [name]; exact mem_cons_self))).1
  have own : ¬ (startsBlank (MessageBuilder.headerText entry) = true ∧ headers ≠ []) := by
    rw [line]
    unfold startsBlank
    simp [front]
  have length : entry.1.length = rest.length + 1 := by rw [name, length_cons]
  unfold addHeaderLine
  rw [if_neg (by rw [line]; exact cons_ne_nil _ _), if_neg own, findByte_headerText token]
  simp only [length]
  rw [← length, take_headerText, drop_headerText, fullHeaderName_token token,
    trim_cons_of_blank (by decide)]

theorem foldlM_headerText (headers : Headers) (entries : List (Bytes × Bytes))
    (tokens : ∀ entry ∈ entries, isToken entry.1 = true) :
    (entries.map MessageBuilder.headerText).foldlM addHeaderLine headers =
      some (headers ++ entries.map fun entry => (canonicalName entry.1, trim entry.2)) := by
  induction entries generalizing headers with
  | nil => simp
  | cons entry entries hypothesis =>
    rw [map_cons, foldlM_cons,
      addHeaderLine_headerText headers (tokens entry mem_cons_self), Option.bind_eq_bind,
      Option.bind_some,
      hypothesis _ fun other member => tokens other (mem_cons_of_mem _ member),
      map_cons, append_assoc]
    rfl

theorem namesContentLength_headerText (token : isToken entry.1 = true) :
    namesContentLength (MessageBuilder.headerText entry) =
      (lowercase entry.1 == ascii "content-length" || lowercase entry.1 == ascii "l") := by
  unfold namesContentLength
  rw [findByte_headerText token]
  dsimp only
  rw [take_headerText, trim_token token]

/-! ### The head of a built message -/

namespace MessageBuilder

/-- The headers the builder writes, its own at the end. -/
def entries (builder : MessageBuilder) : List (Bytes × Bytes) :=
  builder.headers ++
    (if builder.body = [] then [] else [(ascii "Content-Type", builder.contentType)]) ++
    [(ascii "Content-Length", decimal builder.body.length)]

variable {builder : MessageBuilder}

theorem lines_eq (builder : MessageBuilder) :
    builder.leadingLines ++ [builder.lengthLine] =
      builder.startLine :: builder.entries.map headerText := by
  unfold leadingLines entries lengthLine
  split <;> simp

theorem isToken_contentType : isToken (ascii "Content-Type") = true := by decide

theorem isToken_contentLength : isToken (ascii "Content-Length") = true := by decide

theorem Sound.tokens (sound : builder.Sound) :
    ∀ entry ∈ builder.entries, isToken entry.1 = true := by
  intro entry member
  unfold entries at member
  rw [mem_append, mem_append, mem_singleton] at member
  rcases member with (added | type) | rfl
  · exact (sound.names entry added).1
  · split at type
    · cases type
    · rw [mem_singleton.mp type]
      exact isToken_contentType
  · exact isToken_contentLength

theorem notMem_decimal (number : Nat) : 10 ∉ decimal number :=
  fun member => absurd (isDigit_of_mem_decimal member) (by decide)

theorem Sound.entry_values (sound : builder.Sound) :
    ∀ entry ∈ builder.entries, 10 ∉ entry.2 := by
  intro entry member
  unfold entries at member
  rw [mem_append, mem_append, mem_singleton] at member
  rcases member with (added | type) | rfl
  · exact sound.values entry added
  · split at type
    · cases type
    next nonempty =>
      rw [mem_singleton.mp type]
      exact sound.contentType nonempty
  · exact notMem_decimal _

theorem headerText_line (token : isToken entry.1 = true) (value : 10 ∉ entry.2) :
    headerText entry ≠ [] ∧ 10 ∉ headerText entry := by
  unfold headerText
  refine ⟨by simp [(isToken_bytes token).1], ?_⟩
  rw [mem_append, mem_append]
  rintro ((name | colon) | rest)
  · exact (notMem_token token).1 name
  · exact absurd colon (by decide)
  · exact value rest

theorem Sound.lines (sound : builder.Sound) :
    ∀ line ∈ builder.leadingLines ++ [builder.lengthLine], line ≠ [] ∧ 10 ∉ line := by
  intro line member
  rw [lines_eq, mem_cons, mem_map] at member
  rcases member with rfl | ⟨entry, added, rfl⟩
  · exact sound.startLine
  · exact headerText_line (sound.tokens entry added) (sound.entry_values entry added)

theorem getLast?_lengthLine (builder : MessageBuilder) :
    builder.lengthLine.getLast? ≠ some 13 := by
  unfold lengthLine headerText
  rw [List.getLast?_append_of_ne_nil _ (decimal_ne_nil _)]
  intro last
  exact absurd (isDigit_of_mem_decimal (mem_of_getLast? last)) (by decide)

theorem Sound.findText_build (sound : builder.Sound) (rest : Bytes) :
    findText (ascii "\r\n\r\n") (builder.build ++ rest) = some builder.head.length := by
  have line := sound.lines
  have last := line builder.lengthLine (by simp)
  rw [build_eq, append_assoc]
  exact findText_lines (fun line' member => (line line' (by simp [member])).1)
    (fun line' member => (line line' (by simp [member])).2) last.1 last.2 _

theorem Sound.splitLines_head (sound : builder.Sound) :
    splitLines builder.head = builder.startLine :: builder.entries.map headerText := by
  have line := sound.lines
  have last := line builder.lengthLine (by simp)
  rw [← lines_eq]
  exact splitLines_lines (fun line' member => (line line' (by simp [member])).2) last.1 last.2
    builder.getLast?_lengthLine

theorem Sound.splitHead_build (sound : builder.Sound) :
    splitHead builder.build = (builder.head, builder.body) := by
  have found := sound.findText_build []
  rw [append_nil] at found
  unfold splitHead
  rw [found, build_eq, append_assoc]
  dsimp only
  rw [take_left, drop_length_add_append]
  rfl

/-! ### Parsing what was built -/

/-- The headers as the parser returns them. -/
def parsedHeaders (builder : MessageBuilder) : Headers :=
  builder.entries.map fun entry => (canonicalName entry.1, trim entry.2)

theorem parsedHeaders_eq (builder : MessageBuilder) :
    builder.parsedHeaders =
      builder.headers.map (fun entry => (canonicalName entry.1, trim entry.2)) ++
        (if builder.body = [] then [] else [(ascii "content-type", trim builder.contentType)]) ++
        [(ascii "content-length", decimal builder.body.length)] := by
  have type : canonicalName (ascii "Content-Type") = ascii "content-type" := by decide
  have length : canonicalName (ascii "Content-Length") = ascii "content-length" := by decide
  unfold parsedHeaders entries
  split <;> simp [type, length, trim_decimal]

theorem canonicalName_eq_contentLength (token : isToken name = true) :
    canonicalName name = ascii "content-length" ↔
      lowercase name = ascii "content-length" ∨ lowercase name = ascii "l" := by
  have named := fullHeaderName_eq_contentLength name
  rwa [fullHeaderName_token token, trim_token token] at named

theorem Sound.value_contentLength (sound : builder.Sound) :
    builder.parsedHeaders.value (ascii "content-length") = some (decimal builder.body.length) := by
  have foreign : Headers.value (builder.headers.map fun entry =>
      (canonicalName entry.1, trim entry.2)) (ascii "content-length") = none := by
    unfold Headers.value
    rw [Option.map_eq_none_iff, List.find?_eq_none]
    intro entry member
    obtain ⟨original, added, rfl⟩ := mem_map.mp member
    obtain ⟨token, notLength, notShort⟩ := sound.names original added
    rw [beq_iff_eq, canonicalName_eq_contentLength token]
    exact not_or.mpr ⟨notLength, notShort⟩
  rw [parsedHeaders_eq, value_append, value_append, foreign, value_cons_self]
  split
  · rfl
  · rw [value_cons_ne _ _ (by decide)]
    rfl

/-- The parser reads a built message back, up to blanks around the header values. -/
theorem Sound.parsed_build (sound : builder.Sound) (length : builder.body.length < 2 ^ 64) :
    parseMessage builder.build = (parseStartLine builder.startLine).map fun message =>
      { message with headers := builder.parsedHeaders, body := builder.body } := by
  unfold parseMessage
  rw [sound.splitHead_build]
  dsimp only
  unfold parseHead
  rw [sound.splitLines_head]
  dsimp only
  rw [foldlM_headerText [] builder.entries sound.tokens]
  cases parseStartLine builder.startLine with
  | none => rfl
  | some message =>
    have read : Message.contentLength { message with headers := builder.parsedHeaders } =
        some (some builder.body.length) := by
      unfold Message.contentLength Message.header parseInteger
      rw [sound.value_contentLength, Option.map_some, trim_decimal, fromChars_decimal length]
    have cut : Message.withBody { message with headers := builder.parsedHeaders } builder.body =
        some { message with headers := builder.parsedHeaders, body := builder.body } := by
      unfold Message.withBody
      rw [read]
      dsimp only
      rw [if_neg (Nat.lt_irrefl _), take_length]
    exact cut

end MessageBuilder

/-! ### Start lines -/

/-- What a start line says. -/
inductive StartLine where
  | request (method uri : Bytes)
  | response (status : Int) (reason : Bytes)
  deriving DecidableEq, Repr

namespace StartLine

/-- A start line as it is written. -/
def text : StartLine → Bytes
  | request method uri => method ++ ascii " " ++ uri ++ ascii " SIP/2.0"
  | response status reason => ascii "SIP/2.0 " ++ decimalInt status ++ ascii " " ++ reason

/-- A start line as the parser returns it. -/
def message : StartLine → Message
  | request method uri => { method, uri }
  | response status reason => { isResponse := true, status, reason }

/-- The start lines of the parser's grammar. -/
def Allowed : StartLine → Prop
  | request method uri => isToken method = true ∧ uri ≠ [] ∧ 10 ∉ uri ∧ trim uri = uri
  | response status reason => 100 ≤ status ∧ status ≤ 699 ∧ 10 ∉ reason ∧ trim reason = reason

end StartLine

/-- A request line is read back, up to blanks around the URI. -/
theorem parseStartLine_request {method uri : Bytes} (token : isToken method = true)
    (nonempty : trim uri ≠ []) :
    parseStartLine (StartLine.request method uri).text = some { method, uri := trim uri } := by
  obtain ⟨-, noSpace, noSlash, -⟩ := notMem_token token
  have version : ascii " SIP/2.0" = 32 :: ascii "SIP/2.0" := by decide
  have text : (StartLine.request method uri).text =
      method ++ 32 :: (uri ++ 32 :: ascii "SIP/2.0") := by
    rw [StartLine.text, version, show ascii " " = [32] by decide, append_assoc,
      append_assoc]
    rfl
  have first := findByte_append noSpace (uri ++ 32 :: ascii "SIP/2.0")
  have last := findLastByte_append (method ++ 32 :: uri) (show 32 ∉ ascii "SIP/2.0" by decide)
  have assoc : method ++ 32 :: (uri ++ 32 :: ascii "SIP/2.0") =
      (method ++ 32 :: uri) ++ 32 :: ascii "SIP/2.0" := by
    rw [append_assoc]
    rfl
  -- A status line has a slash before its first space; a method has none.
  have notStatus : ¬ (ascii "SIP/2.0 ").isPrefixOf (StartLine.request method uri).text = true := by
    intro starts
    obtain ⟨rest, status⟩ := isPrefixOf_iff_prefix.mp starts
    have place := findByte_append (show 32 ∉ ascii "SIP/2.0" by decide) rest
    have whole : ascii "SIP/2.0" ++ 32 :: rest = method ++ 32 :: (uri ++ 32 :: ascii "SIP/2.0") :=
      text ▸ status
    rw [whole, first, Option.some.injEq] at place
    have front := (append_inj whole place.symm).1
    exact noSlash (front ▸ by decide)
  unfold parseStartLine
  rw [if_neg notStatus, text, first, assoc, last]
  have separate : (method ++ 32 :: uri).length ≠ method.length := by simp
  have versionLeft : ((method ++ 32 :: uri) ++ 32 :: ascii "SIP/2.0").drop
      ((method ++ 32 :: uri).length + 1) = ascii "SIP/2.0" := by
    rw [drop_length_add_append]
    rfl
  have uriLeft : (((method ++ 32 :: uri) ++ 32 :: ascii "SIP/2.0").drop (method.length + 1)).take
      ((method ++ 32 :: uri).length - method.length - 1) = uri := by
    rw [← assoc, drop_length_add_append, length_append, length_cons,
      show method.length + (uri.length + 1) - method.length - 1 = uri.length by omega]
    exact take_left
  have methodLeft :
      ((method ++ 32 :: uri) ++ 32 :: ascii "SIP/2.0").take method.length = method := by
    rw [← assoc]
    exact take_left
  dsimp only
  rw [if_neg (not_or.mpr ⟨separate, not_not.mpr versionLeft⟩), uriLeft, methodLeft,
    if_neg (by simp [token, nonempty])]

theorem fromCharsInt_decimal {number : Nat} (fits : number < 2 ^ 31) :
    fromCharsInt (decimal number) = some number := by
  unfold fromCharsInt
  split
  next minus =>
    have digit := isDigit_of_mem_decimal (minus ▸ mem_cons_self : 45 ∈ decimal number)
    exact absurd digit (by decide)
  · rw [fromChars_decimal fits]
    rfl

theorem decimalInt_natCast (number : Nat) : decimalInt number = decimal number := by
  unfold decimalInt
  rw [if_neg (by omega), Int.natAbs_natCast]

/-- A status line is read back, up to blanks around the reason. -/
theorem parseStartLine_response {status : Int} (low : 100 ≤ status) (high : status ≤ 699)
    (reason : Bytes) :
    parseStartLine (StartLine.response status reason).text =
      some { isResponse := true, status, reason := trim reason } := by
  obtain ⟨number, rfl⟩ := Int.eq_ofNat_of_zero_le (show 0 ≤ status by omega)
  have three : ∀ number < 700, 100 ≤ number → (decimal number).length = 3 := by decide +kernel
  have digits := three number (by omega) (by omega)
  have text : (StartLine.response number reason).text =
      ascii "SIP/2.0 " ++ (decimal number ++ 32 :: reason) := by
    rw [StartLine.text, decimalInt_natCast, append_assoc, append_assoc]
    rfl
  have eight : (ascii "SIP/2.0 ").length = 8 := by decide
  have afterVersion : (StartLine.response number reason).text.drop 8 =
      decimal number ++ 32 :: reason := by
    rw [text, ← eight]
    exact drop_left
  have afterStatus : (StartLine.response number reason).text.drop 11 = 32 :: reason := by
    rw [show 11 = 8 + 3 by decide, ← drop_drop, afterVersion, ← digits]
    exact drop_left
  have long : ¬ (StartLine.response number reason).text.length < 11 := by
    rw [text, length_append, length_append, eight, digits]
    omega
  unfold parseStartLine
  rw [if_pos (by rw [text]; exact isPrefixOf_iff_prefix.mpr (prefix_append _ _)),
    if_neg long, afterVersion, afterStatus, ← digits, take_left, parseInt, trim_decimal,
    fromCharsInt_decimal (by omega), trim_cons_of_blank (by decide)]
  exact if_neg (by omega)

theorem StartLine.Allowed.parse {start : StartLine} (allowed : start.Allowed) :
    parseStartLine start.text = some start.message := by
  cases start with
  | request method uri =>
    obtain ⟨token, nonempty, -, trimmed⟩ := allowed
    rw [parseStartLine_request token (by rwa [trimmed]), trimmed]
    rfl
  | response status reason =>
    obtain ⟨low, high, -, trimmed⟩ := allowed
    rw [parseStartLine_response low high, trimmed]
    rfl

theorem StartLine.Allowed.line {start : StartLine} (allowed : start.Allowed) :
    start.text ≠ [] ∧ 10 ∉ start.text := by
  cases start with
  | request method uri =>
    obtain ⟨token, -, line, -⟩ := allowed
    have version : 10 ∉ ascii " SIP/2.0" := by decide
    have space : 10 ∉ ascii " " := by decide
    unfold StartLine.text
    refine ⟨by simp [(isToken_bytes token).1], ?_⟩
    simp [(notMem_token token).1, line, version, space]
  | response status reason =>
    obtain ⟨low, high, line, -⟩ := allowed
    obtain ⟨number, rfl⟩ := Int.eq_ofNat_of_zero_le (show 0 ≤ status by omega)
    have version : 10 ∉ ascii "SIP/2.0 " := by decide
    have space : 10 ∉ ascii " " := by decide
    rw [StartLine.text, decimalInt_natCast]
    refine ⟨by simp [decimal_ne_nil], ?_⟩
    simp [MessageBuilder.notMem_decimal, line, version, space]

/-! ### Parsing undoes building -/

/-- Parsing undoes building: for every start line of the grammar, headers with values that have no
line feed and no blanks around them, and any body that fits the memory. -/
theorem parseMessage_build (start : StartLine) (allowed : start.Allowed)
    {headers : List (Bytes × Bytes)} {contentType body : Bytes}
    (names : ∀ entry ∈ headers, isToken entry.1 = true ∧
      lowercase entry.1 ≠ ascii "content-length" ∧ lowercase entry.1 ≠ ascii "l")
    (values : ∀ entry ∈ headers, 10 ∉ entry.2 ∧ trim entry.2 = entry.2)
    (type : body ≠ [] → 10 ∉ contentType ∧ trim contentType = contentType)
    (length : body.length < 2 ^ 64) :
    parseMessage (MessageBuilder.build { startLine := start.text, headers, contentType, body }) =
      some { start.message with
        headers := headers.map (fun entry => (canonicalName entry.1, entry.2)) ++
          (if body = [] then [] else [(ascii "content-type", contentType)]) ++
          [(ascii "content-length", decimal body.length)]
        body } := by
  have sound : MessageBuilder.Sound { startLine := start.text, headers, contentType, body } :=
    { startLine := allowed.line
      names
      values := fun entry member => (values entry member).1
      contentType := fun nonempty => (type nonempty).1 }
  have added : headers.map (fun entry => (canonicalName entry.1, trim entry.2)) =
      headers.map fun entry => (canonicalName entry.1, entry.2) :=
    map_congr_left fun entry member => by rw [(values entry member).2]
  rw [sound.parsed_build length, allowed.parse, Option.map_some,
    MessageBuilder.parsedHeaders_eq, added]
  by_cases empty : body = []
  · rw [if_pos empty, if_pos empty]
  · rw [if_neg empty, if_neg empty, (type empty).2]

/-- An OPTIONS request with a compact name, an empty value and a body with an empty line. -/
theorem options_parseMessage_build :
    parseMessage (MessageBuilder.build
        { startLine := (StartLine.request (ascii "OPTIONS") (ascii "sip:a b")).text
          headers := [(ascii "V", ascii "SIP/2.0/TLS host;rport"), (ascii "X-Note", [])]
          contentType := ascii "application/sdp"
          body := ascii "v=0\r\n\r\nl: 9" }) =
      some
        { method := ascii "OPTIONS"
          uri := ascii "sip:a b"
          headers := [(ascii "via", ascii "SIP/2.0/TLS host;rport"), (ascii "x-note", []),
            (ascii "content-type", ascii "application/sdp"), (ascii "content-length", ascii "11")]
          body := ascii "v=0\r\n\r\nl: 9" } :=
  parseMessage_build (.request (ascii "OPTIONS") (ascii "sip:a b"))
    ⟨by decide, by decide, by decide, by decide⟩ (by decide) (by decide) (by decide) (by decide)

/-! ### Framing undoes joining -/

namespace MessageBuilder

variable {builder : MessageBuilder}

/-- The framer reads the length the builder wrote. -/
theorem Sound.contentLength_head (sound : builder.Sound) (length : builder.body.length < 2 ^ 64) :
    contentLength builder.head = some builder.body.length := by
  have foreign : (builder.headers.map headerText).find? namesContentLength = none := by
    rw [List.find?_eq_none]
    intro line member
    obtain ⟨entry, added, rfl⟩ := mem_map.mp member
    obtain ⟨token, notLength, notShort⟩ := sound.names entry added
    rw [namesContentLength_headerText token, beq_false_of_ne notLength, beq_false_of_ne notShort]
    decide
  have type (value : Bytes) :
      namesContentLength (headerText (ascii "Content-Type", value)) = false :=
    (namesContentLength_headerText isToken_contentType).trans (by rfl)
  have own (value : Bytes) :
      namesContentLength (headerText (ascii "Content-Length", value)) = true :=
    (namesContentLength_headerText isToken_contentLength).trans (by rfl)
  have found : (builder.entries.map headerText).find? namesContentLength =
      some (headerText (ascii "Content-Length", decimal builder.body.length)) := by
    unfold entries
    rw [map_append, map_append, List.find?_append, List.find?_append, foreign]
    split <;> simp [type, own]
  unfold contentLength lengthIn
  rw [sound.splitLines_head, drop_one, tail_cons, found, Option.bind_some,
    findByte_headerText isToken_contentLength]
  have value := drop_headerText (ascii "Content-Length", decimal builder.body.length)
  dsimp only at value ⊢
  rw [value, parseInteger, trim_cons_of_blank (by decide), trim_decimal, fromChars_decimal length]

theorem length_build (builder : MessageBuilder) :
    builder.build.length = builder.head.length + 4 + builder.body.length := by
  rw [build_eq, length_append, length_append]
  rfl

/-- A built message is cut off the front of a stream. -/
theorem Sound.cut_build (sound : builder.Sound) (front : builder.startLine.head? ≠ some 13)
    (short : builder.build.length ≤ kMaxMessage) {gap : Bytes}
    (ends : ∀ byte ∈ gap, isLineEnd byte = true) (rest : Bytes) :
    cut (gap ++ (builder.build ++ rest)) = .message builder.build rest := by
  have length := builder.length_build
  have fits : builder.body.length < 2 ^ 64 := by
    unfold kMaxMessage at short
    omega
  obtain ⟨first, others, line⟩ := exists_cons_of_ne_nil sound.startLine.1
  have kept : ¬ isLineEnd first = true := by
    have notReturn : first ≠ 13 := fun equal => front (by rw [line, equal]; rfl)
    have notFeed : first ≠ 10 := fun equal => sound.startLine.2 (by simp [line, equal])
    simp [isLineEnd, notReturn, notFeed]
  have begins : ∃ more, builder.build = first :: more := by
    unfold build
    rw [line]
    exact ⟨_, rfl⟩
  have dropped : (gap ++ (builder.build ++ rest)).dropWhile isLineEnd = builder.build ++ rest := by
    obtain ⟨more, build⟩ := begins
    rw [dropWhile_append_of_pos ends, build, cons_append,
      dropWhile_cons_of_neg kept]
  have head : (builder.build ++ rest).take builder.head.length = builder.head := by
    rw [build_eq, append_assoc, append_assoc]
    exact take_left
  unfold cut
  dsimp only
  rw [dropped, sound.findText_build rest]
  dsimp only
  rw [head, sound.contentLength_head fits]
  dsimp only
  rw [← length, if_neg (by omega), if_neg (by rw [length_append]; omega), take_left,
    drop_left]

end MessageBuilder

/-- Some CRLFs in a row. -/
def keepAlives (count : Nat) : Bytes := (List.replicate count (ascii "\r\n")).flatten

theorem isLineEnd_keepAlives (count : Nat) : ∀ byte ∈ keepAlives count, isLineEnd byte = true := by
  intro byte member
  obtain ⟨line, replicated, inside⟩ := mem_flatten.mp member
  rw [(mem_replicate.mp replicated).2] at inside
  exact (by decide +kernel : ∀ byte ∈ ascii "\r\n", isLineEnd byte = true) byte inside

/-- Built messages on a stream, each after some CRLFs, and some more at the end. -/
def joined (messages : List (Nat × MessageBuilder)) (last : Nat) : Bytes :=
  messages.flatMap (fun entry => keepAlives entry.1 ++ entry.2.build) ++ keepAlives last

theorem frames_joined {messages : List (Nat × MessageBuilder)} (last : Nat)
    (sound : ∀ entry ∈ messages, entry.2.Sound)
    (front : ∀ entry ∈ messages, entry.2.startLine.head? ≠ some 13)
    (short : ∀ entry ∈ messages, entry.2.build.length ≤ kMaxMessage) :
    Frames (joined messages last) (messages.map fun entry => entry.2.build) [] false := by
  induction messages with
  | nil =>
    refine .waits ?_
    have dropped : (keepAlives last).dropWhile isLineEnd = [] :=
      dropWhile_eq_nil_iff.mpr (isLineEnd_keepAlives last)
    unfold joined cut
    rw [flatMap_nil, nil_append, dropped]
    decide
  | cons entry messages hypothesis =>
    have later := hypothesis
      (fun other member => sound other (mem_cons_of_mem _ member))
      (fun other member => front other (mem_cons_of_mem _ member))
      fun other member => short other (mem_cons_of_mem _ member)
    have first := (sound entry mem_cons_self).cut_build (front entry mem_cons_self)
      (short entry mem_cons_self) (isLineEnd_keepAlives entry.1) (joined messages last)
    have whole : joined (entry :: messages) last =
        keepAlives entry.1 ++ (entry.2.build ++ joined messages last) := by
      unfold joined
      simp
    rw [whole, map_cons]
    exact .message first later

/-- The framer undoes joining: whatever the bodies hold, the CRLFs between the messages and the
chunks, it returns the messages in order and keeps nothing. -/
theorem feed_joined {messages : List (Nat × MessageBuilder)} (last : Nat) {chunks : List Bytes}
    (sound : ∀ entry ∈ messages, entry.2.Sound)
    (front : ∀ entry ∈ messages, entry.2.startLine.head? ≠ some 13)
    (short : ∀ entry ∈ messages, entry.2.build.length ≤ kMaxMessage)
    (stream : chunks.flatten = joined messages last) :
    StreamFramer.feed {} chunks = (messages.map fun entry => entry.2.build, {}) := by
  have settled : cut (StreamFramer.mk [] false).buffer = .waits [] := by decide
  obtain ⟨left, frames, kept⟩ := @StreamFramer.frames_feed {} rfl settled chunks
  rw [nil_append, stream] at frames
  obtain ⟨same, rest, whole⟩ := frames.unique (frames_joined last sound front short)
  have empty := (kept whole).trans rest
  generalize StreamFramer.feed {} chunks = fed at same whole empty ⊢
  obtain ⟨returned, buffer, failed⟩ := fed
  cases same
  cases empty
  cases whole
  rfl

/-- Two messages, the second with a body that looks like another message. -/
def lookalikes : List (Nat × MessageBuilder) :=
  [(0, { startLine := ascii "A b SIP/2.0", headers := [(ascii "V", [])] }),
    (2, { startLine := ascii "X", body := ascii "A\r\n\r\nl: 7" })]

theorem lookalikes_feed_joined :
    StreamFramer.feed {} [(joined lookalikes 1).take 5, ((joined lookalikes 1).drop 5).take 40,
        (joined lookalikes 1).drop 45] = (lookalikes.map fun entry => entry.2.build, {}) := by
  have sound : ∀ entry ∈ lookalikes, entry.2.Sound := by
    intro entry member
    rcases mem_pair.mp member with rfl | rfl
    · exact ⟨by decide, by decide, by decide, by decide⟩
    · exact ⟨by decide, by decide, by decide, by decide⟩
  exact feed_joined 1 sound (by decide) (by decide +kernel) (by decide +kernel)

end KetPhone.Sip
