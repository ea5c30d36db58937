/-
This file models `sip/message.cpp`: the SIP message parser with header folding
and compact names, the readers of CSeq, name-addr and parameters, and the
builder that puts outgoing messages together.
-/

import KetPhone.Text

namespace KetPhone.Sip

/-- Header names, lowercase and in full, with their values in order. -/
abbrev Headers := List (Bytes × Bytes)

structure Message where
  isResponse : Bool := false
  status : Int := 0
  reason : Bytes := []
  method : Bytes := []
  uri : Bytes := []
  headers : Headers := []
  body : Bytes := []
  deriving DecidableEq, Repr

/-- The first value under a name. -/
def Headers.value (headers : Headers) (name : Bytes) : Option Bytes :=
  (headers.find? fun entry => entry.1 == name).map Prod.snd

/-- `Message::header`. -/
def Message.header (message : Message) (name : String) : Option Bytes :=
  message.headers.value (ascii name)

/-- `Message::header_all`. -/
def Message.headerAll (message : Message) (name : String) : List Bytes :=
  (message.headers.filter fun entry => entry.1 == ascii name).map Prod.snd

/-- `header(name).value_or("")`. -/
def Message.headerOr (message : Message) (name : String) : Bytes :=
  (message.header name).getD []

/-! ### Parsing -/

/-- The compact header names and what they stand for. -/
def compactNames : List (Bytes × Bytes) :=
  [(ascii "v", ascii "via"), (ascii "f", ascii "from"), (ascii "t", ascii "to"),
    (ascii "i", ascii "call-id"), (ascii "m", ascii "contact"),
    (ascii "l", ascii "content-length"), (ascii "c", ascii "content-type"),
    (ascii "k", ascii "supported"), (ascii "s", ascii "subject"),
    (ascii "e", ascii "content-encoding")]

def fullHeaderName (raw : Bytes) : Bytes :=
  let name := lowercase (trim raw)
  match compactNames.find? fun entry => entry.1 == name with
  | some entry => entry.2
  | none => name

/-- A letter, a digit or one of the marks a SIP token may hold. -/
def isTokenByte (byte : UInt8) : Bool :=
  isDigit byte || (65 ≤ byte && byte ≤ 90) || (97 ≤ byte && byte ≤ 122) ||
    (ascii "-.!%*_+\x60'~").contains byte

def isToken (value : Bytes) : Bool := !value.isEmpty && value.all isTokenByte

/-- The start line: a status line or a request line. -/
def parseStartLine (start : Bytes) : Option Message :=
  if (ascii "SIP/2.0 ").isPrefixOf start then
    if start.length < 11 then none
    else
      match parseInt ((start.drop 8).take 3) with
      | none => none
      | some status =>
        if status < 100 ∨ status > 699 then none
        else some { isResponse := true, status, reason := trim (start.drop 11) }
  else
    match findByte 32 start, findLastByte 32 start with
    | some first, some last =>
      if last = first ∨ start.drop (last + 1) ≠ ascii "SIP/2.0" then none
      else
        let method := start.take first
        let uri := trim ((start.drop (first + 1)).take (last - first - 1))
        if !isToken method ∨ uri = [] then none else some { method, uri }
    | _, _ => none

/-- Whether a line starts with a space or a tab, as a folded line does. -/
def startsBlank (line : Bytes) : Bool := (line.head?.map isBlank).getD false

/-- Appends a folded line to the value of the last header. -/
def foldOntoLast (line : Bytes) : Headers → Headers
  | [] => []
  | [(name, value)] => [(name, value ++ ascii " " ++ trim line)]
  | entry :: next :: rest => entry :: foldOntoLast line (next :: rest)

/-- One line after the start line: blank, folded, or a header of its own. -/
def addHeaderLine (headers : Headers) (line : Bytes) : Option Headers :=
  if line = [] then some headers
  else if startsBlank line ∧ headers ≠ [] then some (foldOntoLast line headers)
  else
    match findByte 58 line with
    | none => none
    | some 0 => none
    | some colon =>
      some (headers ++ [(fullHeaderName (line.take colon), trim (line.drop (colon + 1)))])

/-- The start line and the header lines of a message, before Content-Length is looked at. -/
def parseHead (head : Bytes) : Option Message :=
  match splitLines head with
  | [] => none
  | start :: lines => do
    let message ← parseStartLine start
    let headers ← lines.foldlM addHeaderLine []
    return { message with headers }

/-- The head of a datagram and what follows the first empty line, if there is one. -/
def splitHead (datagram : Bytes) : Bytes × Bytes :=
  match findText (ascii "\r\n\r\n") datagram with
  | some split => (datagram.take split, datagram.drop (split + 4))
  | none =>
    match findText (ascii "\n\n") datagram with
    | some split => (datagram.take split, datagram.drop (split + 2))
    | none => (datagram, [])

/-- The number a Content-Length header gives, when there is one. -/
def Message.contentLength (message : Message) : Option (Option Nat) :=
  (message.header "content-length").map (parseInteger 64)

/-- Cuts the body at Content-Length, and refuses a length that is no number or too long. -/
def Message.withBody (message : Message) (body : Bytes) : Option Message :=
  match message.contentLength with
  | none => some { message with body }
  | some none => none
  | some (some size) =>
    if size > body.length then none else some { message with body := body.take size }

/-- `parse_message`. -/
def parseMessage (datagram : Bytes) : Option Message :=
  let (head, body) := splitHead datagram
  (parseHead head).bind fun message => message.withBody body

structure CSeq where
  number : UInt32
  method : Bytes
  deriving DecidableEq, Repr

def parseCseq (raw : Bytes) : Option CSeq :=
  let value := trim raw
  match findFirstOf (ascii " \t") value with
  | none => none
  | some space =>
    let method := trim (value.drop space)
    match parseInteger 32 (value.take space) with
    | none => none
    | some number => if method = [] then none else some { number := UInt32.ofNat number, method }

/-- `find(byte, from)`. -/
def findByteFrom (byte : UInt8) (start : Nat) (text : Bytes) : Option Nat :=
  (findByte byte (text.drop start)).map (· + start)

def uriOf (nameAddr : Bytes) : Bytes :=
  let bare := trim (upTo (findByte 59 nameAddr) nameAddr)
  match findByte 60 nameAddr with
  | none => bare
  | some opening =>
    match findByteFrom 62 opening nameAddr with
    | none => bare
    | some closing => trim ((nameAddr.drop (opening + 1)).take (closing - opening - 1))

/-- What stands between the quotes of a display name, a backslash taking the next character as
it is unless that is the closing quote. -/
def unquote : Bytes → Bytes
  | [] => []
  | [_] => []
  | 92 :: escaped :: last :: rest => escaped :: unquote (last :: rest)
  | byte :: next :: rest => byte :: unquote (next :: rest)

def displayNameOf (nameAddr : Bytes) : Bytes :=
  match findByte 60 nameAddr with
  | none => []
  | some opening =>
    let name := trim (nameAddr.take opening)
    if 2 ≤ name.length ∧ name.head? = some 34 ∧ name.getLast? = some 34 then unquote (name.drop 1)
    else name

/-- Strips the quotes around a parameter value. -/
def unquoteParam (raw : Bytes) : Bytes :=
  if 2 ≤ raw.length ∧ raw.head? = some 34 ∧ raw.getLast? = some 34 then
    (raw.drop 1).take (raw.length - 2)
  else raw

/-- The parameters after the first `;`, each up to the next `;` or `,`. What stands between a
comma and the next semicolon belongs to no parameter. -/
def paramsLoop (name : Bytes) : Nat → Bytes → Option Bytes
  | 0, _ => none
  | fuel + 1, value =>
    match findByte 59 value with
    | none => none
    | some semicolon =>
      let rest := value.drop (semicolon + 1)
      let param := upTo (findFirstOf (ascii ";,") rest) rest
      let equals := findByte 61 param
      if iequals (trim (upTo equals param)) name then
        match equals with
        | none => some []
        | some place => some (unquoteParam (trim (param.drop (place + 1))))
      else paramsLoop name fuel rest

/-- `param_of`: parameters inside `<...>` belong to the URI, not to the header. -/
def paramOf (value : Bytes) (name : String) : Option Bytes :=
  let outside := match findByte 62 value with
    | none => value
    | some closing => value.drop (closing + 1)
  paramsLoop (ascii name) (outside.length + 1) outside

/-! ### Building -/

/-- `MessageBuilder`. -/
structure MessageBuilder where
  startLine : Bytes
  headers : List (Bytes × Bytes) := []
  contentType : Bytes := []
  body : Bytes := []
  deriving DecidableEq, Repr

def MessageBuilder.add (builder : MessageBuilder) (name : String) (value : Bytes) :
    MessageBuilder :=
  { builder with headers := builder.headers ++ [(ascii name, value)] }

def MessageBuilder.build (builder : MessageBuilder) : Bytes :=
  let crlf := ascii "\r\n"
  builder.startLine ++ crlf ++
    builder.headers.flatMap (fun entry => entry.1 ++ ascii ": " ++ entry.2 ++ crlf) ++
    (if builder.body = [] then [] else ascii "Content-Type: " ++ builder.contentType ++ crlf) ++
    ascii "Content-Length: " ++ decimal builder.body.length ++ crlf ++ crlf ++ builder.body

def reasonPhrase (status : Int) : Bytes :=
  if status = 100 then ascii "Trying"
  else if status = 180 then ascii "Ringing"
  else if status = 183 then ascii "Session Progress"
  else if status = 200 then ascii "OK"
  else if status = 400 then ascii "Bad Request"
  else if status = 408 then ascii "Request Timeout"
  else if status = 480 then ascii "Temporarily Unavailable"
  else if status = 481 then ascii "Call/Transaction Does Not Exist"
  else if status = 486 then ascii "Busy Here"
  else if status = 487 then ascii "Request Terminated"
  else if status = 488 then ascii "Not Acceptable Here"
  else if status = 500 then ascii "Server Internal Error"
  else if status = 501 then ascii "Not Implemented"
  else if status = 603 then ascii "Decline"
  else if status < 300 then ascii "OK"
  else ascii "Error"

end KetPhone.Sip
