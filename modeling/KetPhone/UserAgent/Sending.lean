/-
This file proves that what the agent sends is what it means to send. Every packet
of the agent is a start line, a list of headers and a body for the builder, and
the parser returns them as they are, provided that no part is broken by a line
feed and that a request has a target. The agent's own texts are unbroken, and what
it copies from received messages was unbroken there; so the one thing that can go
wrong is a target: `uri_of` of a Contact may be empty, and the ACK of a 2xx or a
BYE then goes to nobody and cannot be parsed.
-/

import KetPhone.Unbroken
import KetPhone.UserAgent.Conduct

namespace KetPhone.Core

open Sip List

variable {packet : Packet}

/-! ### Packets for the builder -/

/-- The start line of a packet. -/
def Packet.start : Packet → StartLine
  | .request content _ => .request content.method content.uri
  | .response content => .response content.status (reasonPhrase content.status)
  | .ackForFailure context _ => .request (ascii "ACK") context.uri

/-- The headers of a packet besides those of its body, in order. -/
def Packet.headers (config : UserAgentConfig) : Packet → List (Bytes × Bytes)
  | .request content branch =>
    [(ascii "Via", config.via branch), (ascii "Max-Forwards", ascii "70"),
      (ascii "From", content.sender), (ascii "To", content.recipient),
      (ascii "Call-ID", content.callId),
      (ascii "CSeq", decimal content.cseq.toNat ++ ascii " " ++ content.method)] ++
    (if content.method ≠ ascii "ACK" ∧ content.method ≠ ascii "CANCEL" then
      [(ascii "Contact", config.contact)] else []) ++
    content.extra ++ [(ascii "User-Agent", config.userAgent)]
  | .response content =>
    (content.request.headerAll "via").map (fun via => (ascii "Via", via)) ++
    [(ascii "From", content.request.headerOr "from"),
      (ascii "To", if content.toTag ≠ [] ∧ 100 < content.status then
        tagged (content.request.headerOr "to") content.toTag else content.request.headerOr "to"),
      (ascii "Call-ID", content.request.headerOr "call-id"),
      (ascii "CSeq", content.request.headerOr "cseq")] ++
    (if content.request.method = ascii "INVITE" ∧ content.status < 300 then
      [(ascii "Contact", config.contact)] else []) ++
    (if content.request.method = ascii "OPTIONS" ∨ content.status = 501 then
      [(ascii "Allow", kAllow)] else []) ++
    [(ascii "User-Agent", config.userAgent)]
  | .ackForFailure context recipient =>
    [(ascii "Via", config.via context.branch), (ascii "Max-Forwards", ascii "70"),
      (ascii "From", context.sender), (ascii "To", recipient),
      (ascii "Call-ID", context.sipCallId),
      (ascii "CSeq", decimal context.cseq.toNat ++ ascii " ACK"),
      (ascii "User-Agent", config.userAgent)]

/-- A packet as it is given to the builder. -/
def Packet.builder (config : UserAgentConfig) (packet : Packet) : MessageBuilder :=
  { startLine := packet.start.text
    headers := packet.headers config
    contentType := ascii "application/sdp"
    body := packet.body }

/-- The message that a packet means: its start line and its body, and its headers with canonical
names and without the blanks around the values. -/
def Packet.message (config : UserAgentConfig) (packet : Packet) : Message :=
  { packet.start.message with
    headers := (packet.headers config).map (fun entry => (canonicalName entry.1, trim entry.2)) ++
      (if packet.body = [] then [] else [(ascii "content-type", ascii "application/sdp")]) ++
      [(ascii "content-length", decimal packet.body.length)]
    body := packet.body }

/-- The parser reads a packet as it was meant. -/
def Packet.WellFormed (config : UserAgentConfig) (packet : Packet) : Prop :=
  parseMessage (packet.bytes config) = some (packet.message config)

theorem build_ite {builder : MessageBuilder} (bare : builder.body = []) (contentType body : Bytes) :
    (if body = [] then builder.build
      else MessageBuilder.build { builder with contentType, body }) =
      MessageBuilder.build { builder with contentType, body } := by
  split
  next empty =>
    unfold MessageBuilder.build
    simp [bare, empty]
  · rfl

theorem ite_add (condition : Prop) [Decidable condition] (builder : MessageBuilder) (name : String)
    (value : Bytes) :
    (if condition then builder.add name value else builder) =
      { builder with
        headers := builder.headers ++ if condition then [(ascii name, value)] else [] } := by
  split <;> simp [MessageBuilder.add]

theorem foldl_add_via (vias : List Bytes) (builder : MessageBuilder) :
    vias.foldl (·.add "Via" ·) builder =
      { builder with headers := builder.headers ++ vias.map fun via => (ascii "Via", via) } := by
  induction vias generalizing builder with
  | nil => simp
  | cons via vias hypothesis =>
    rw [foldl_cons, hypothesis]
    simp [MessageBuilder.add]

/-- The bytes of a packet are the builder's. -/
theorem Packet.bytes_eq (config : UserAgentConfig) (packet : Packet) :
    packet.bytes config = (packet.builder config).build := by
  unfold Packet.builder
  cases packet with
  | request content branch =>
    unfold Packet.bytes buildRequest
    dsimp only
    rw [ite_add, build_ite rfl]
    simp [MessageBuilder.add, Packet.start, StartLine.text, Packet.headers, Packet.body]
  | response content =>
    unfold Packet.bytes buildResponse
    dsimp only
    rw [foldl_add_via, ite_add, ite_add, build_ite rfl]
    simp [MessageBuilder.add, Packet.start, StartLine.text, Packet.headers, Packet.body]
  | ackForFailure context recipient =>
    have bare (builder : MessageBuilder) (empty : builder.body = []) :
        builder.build = MessageBuilder.build
          { builder with contentType := ascii "application/sdp", body := [] } := by
      rw [← build_ite empty (ascii "application/sdp") [], if_pos rfl]
    have line : ascii "ACK " = ascii "ACK" ++ ascii " " := by decide
    unfold Packet.bytes buildAckForFailure
    refine (bare _ rfl).trans ?_
    simp [MessageBuilder.add, Packet.start, StartLine.text, Packet.headers, Packet.body, line]

/-! ### Packets that are read back -/

/-- What `random_hex` returns has the digits of its table only. -/
def Random.Hexadecimal (random : Random) : Prop := ∀ draw size, random.hex draw size ⊆ kHex

/-- A branch that was drawn. -/
def Random.Drew (random : Random) (branch : Bytes) : Prop := ∃ draw, branch = random.branch draw

/-- The methods of the agent's requests. -/
def ownMethods : List Bytes :=
  [ascii "REGISTER", ascii "INVITE", ascii "ACK", ascii "BYE", ascii "CANCEL"]

/-- The names of the headers that only some requests have. -/
def extraNames : List Bytes :=
  [ascii "Expires", ascii "Allow", ascii "Authorization", ascii "Proxy-Authorization"]

/-- A configuration whose texts are unbroken, with an address that fits the memory. -/
structure UserAgentConfig.Unbroken (config : UserAgentConfig) : Prop where
  domain : Sip.Unbroken config.domain
  extension : Sip.Unbroken config.extension
  localAddress : Sip.Unbroken config.localAddress
  transport : Sip.Unbroken config.transport
  userAgent : Sip.Unbroken config.userAgent
  fits : config.localAddress.length < 2 ^ 62

section Tidiness

variable (random : Random) (target : Bytes → Prop)

/-- A request with an allowed target and no line feed in any header. -/
structure Request.Tidy (content : Request) : Prop where
  method : content.method ∈ ownMethods
  uri : target content.uri
  sender : Unbroken content.sender
  recipient : Unbroken content.recipient
  callId : Unbroken content.callId
  extra : ∀ entry ∈ content.extra, entry.1 ∈ extraNames ∧ Unbroken entry.2
  body : content.body.length < 2 ^ 64

/-- A response that can be written. -/
structure Response.Tidy (content : Response) : Prop where
  status : 100 ≤ content.status ∧ content.status ≤ 699
  request : content.request.Unbroken
  toTag : Unbroken content.toTag
  body : content.body.length < 2 ^ 64

structure InviteContext.Tidy (context : InviteContext) : Prop where
  uri : target context.uri
  sender : Unbroken context.sender
  sipCallId : Unbroken context.sipCallId
  branch : random.Drew context.branch

/-- A packet with an allowed target and no line feed in any header. -/
def Packet.Tidy : Packet → Prop
  | .request content branch => content.Tidy target ∧ random.Drew branch
  | .response content => content.Tidy
  | .ackForFailure context recipient => context.Tidy random target ∧ Unbroken recipient

end Tidiness

section Reading

variable {config : UserAgentConfig} {random : Random} {target : Bytes → Prop}

theorem Random.Hexadecimal.unbroken (hexadecimal : random.Hexadecimal) (draw size : Nat) :
    Unbroken (random.hex draw size) :=
  (by decide : Unbroken kHex).part (hexadecimal draw size)

theorem Random.Drew.unbroken {branch : Bytes} (drew : random.Drew branch)
    (hexadecimal : random.Hexadecimal) : Unbroken branch := by
  obtain ⟨draw, rfl⟩ := drew
  exact unbroken_append.mpr ⟨by decide, hexadecimal.unbroken draw 10⟩

theorem unbroken_sipHost {address : Bytes} (unbroken : Unbroken address) :
    Unbroken (sipHost address) := by
  unfold sipHost
  split
  · exact unbroken_append.mpr ⟨unbroken_append.mpr ⟨by decide, unbroken⟩, by decide⟩
  · exact unbroken

theorem unbroken_tagged {header tag : Bytes} (unbroken : Unbroken header) (more : Unbroken tag) :
    Unbroken (tagged header tag) := by
  unfold tagged
  split
  · exact unbroken
  · exact unbroken_append.mpr ⟨unbroken_append.mpr ⟨unbroken, by decide⟩, more⟩

namespace UserAgentConfig.Unbroken

variable (unbroken : config.Unbroken)
include unbroken

theorem aor : Sip.Unbroken config.aor := by
  unfold UserAgentConfig.aor
  simp only [unbroken_append]
  exact ⟨⟨⟨by decide, unbroken.extension⟩, by decide⟩, unbroken_sipHost unbroken.domain⟩

theorem sentBy : Sip.Unbroken config.sentBy := by
  unfold UserAgentConfig.sentBy
  refine unbroken_append.mpr ⟨unbroken_sipHost unbroken.localAddress, ?_⟩
  split
  · exact unbroken_nil
  · exact unbroken_append.mpr ⟨by decide, unbroken_decimal _⟩

theorem contact : Sip.Unbroken config.contact := by
  unfold UserAgentConfig.contact
  simp only [unbroken_append]
  exact ⟨⟨⟨⟨⟨⟨by decide, unbroken.extension⟩, by decide⟩, unbroken.sentBy⟩, by decide⟩,
    unbroken_lowercase unbroken.transport⟩, by decide⟩

theorem via {branch : Bytes} (drawn : Sip.Unbroken branch) : Sip.Unbroken (config.via branch) := by
  unfold UserAgentConfig.via
  simp only [unbroken_append]
  exact ⟨⟨⟨⟨⟨⟨by decide, unbroken.transport⟩, by decide⟩, unbroken.sentBy⟩, by decide⟩, drawn⟩,
    by decide⟩

end UserAgentConfig.Unbroken

/-- The names of headers that the agent writes. -/
def headerNames : List Bytes :=
  [ascii "Via", ascii "Max-Forwards", ascii "From", ascii "To", ascii "Call-ID", ascii "CSeq",
    ascii "Contact", ascii "User-Agent"] ++ extraNames

theorem headerNames_allowed : ∀ name ∈ headerNames, isToken name = true ∧
    lowercase name ≠ ascii "content-length" ∧ lowercase name ≠ ascii "l" := by decide

/-- A header of the agent that is one line. -/
def Proper (entry : Bytes × Bytes) : Prop := entry.1 ∈ headerNames ∧ Unbroken entry.2

theorem proper_ite {condition : Prop} [Decidable condition] {entry : Bytes × Bytes}
    (proper : Proper entry) : ∀ other ∈ if condition then [entry] else [], Proper other := by
  split
  · exact forall_mem_singleton.mpr proper
  · exact fun _ missing => absurd missing not_mem_nil

/-- The headers of a tidy packet are the agent's own, each on one line. -/
theorem Packet.Tidy.headers (tidy : packet.Tidy random target) (unbroken : config.Unbroken)
    (hexadecimal : random.Hexadecimal) : ∀ entry ∈ packet.headers config, Proper entry := by
  have number (count : Nat) {method : Bytes} (line : Unbroken method) :
      Unbroken (decimal count ++ method) := unbroken_append.mpr ⟨unbroken_decimal count, line⟩
  have plain : ∀ method ∈ ownMethods, Unbroken method := by decide
  have own {name value : Bytes} (known : name ∈ headerNames) (line : Unbroken value) :
      Proper (name, value) := ⟨known, line⟩
  have agent : Proper (ascii "User-Agent", config.userAgent) :=
    own (by decide) unbroken.userAgent
  have contact : Proper (ascii "Contact", config.contact) := own (by decide) unbroken.contact
  cases packet with
  | request content branch =>
    obtain ⟨tidy, drew⟩ := tidy
    have via := unbroken.via (drew.unbroken hexadecimal)
    have cseq : Unbroken (decimal content.cseq.toNat ++ ascii " " ++ content.method) :=
      unbroken_append.mpr ⟨number _ (by decide), plain _ tidy.method⟩
    unfold Packet.headers
    refine forall_mem_append.mpr ⟨forall_mem_append.mpr ⟨forall_mem_append.mpr
      ⟨?_, proper_ite contact⟩, fun entry member => ?_⟩, forall_mem_singleton.mpr agent⟩
    · simp only [forall_mem_cons]
      exact ⟨own (by decide) via, own (by decide) (by decide), own (by decide) tidy.sender,
        own (by decide) tidy.recipient, own (by decide) tidy.callId, own (by decide) cseq, nofun⟩
    · obtain ⟨known, line⟩ := tidy.extra entry member
      exact ⟨mem_append_right _ known, line⟩
  | response content =>
    have recipient : Unbroken (if content.toTag ≠ [] ∧ 100 < content.status then
        tagged (content.request.headerOr "to") content.toTag
          else content.request.headerOr "to") := by
      split
      · exact unbroken_tagged (tidy.request.headerOr _) tidy.toTag
      · exact tidy.request.headerOr _
    unfold Packet.headers
    refine forall_mem_append.mpr ⟨forall_mem_append.mpr ⟨forall_mem_append.mpr
      ⟨forall_mem_append.mpr ⟨fun entry member => ?_, ?_⟩, proper_ite contact⟩,
      proper_ite ⟨by decide, by decide⟩⟩, forall_mem_singleton.mpr agent⟩
    · obtain ⟨via, among, rfl⟩ := mem_map.mp member
      exact own (by decide) (tidy.request.headerAll among)
    · simp only [forall_mem_cons]
      exact ⟨own (by decide) (tidy.request.headerOr _), own (by decide) recipient,
        own (by decide) (tidy.request.headerOr _), own (by decide) (tidy.request.headerOr _), nofun⟩
  | ackForFailure context recipient =>
    obtain ⟨tidy, line⟩ := tidy
    have via := unbroken.via (tidy.branch.unbroken hexadecimal)
    unfold Packet.headers
    simp only [forall_mem_cons]
    exact ⟨own (by decide) via, own (by decide) (by decide), own (by decide) tidy.sender,
      own (by decide) line, own (by decide) tidy.sipCallId, own (by decide) (number _ (by decide)),
      agent, nofun⟩

theorem trim_reasonPhrase (status : Int) :
    trim (reasonPhrase status) = reasonPhrase status ∧ Unbroken (reasonPhrase status) := by
  have either {condition : Prop} [Decidable condition] {first second : Bytes}
      (one : trim first = first ∧ Unbroken first) (other : trim second = second ∧ Unbroken second) :
      trim (if condition then first else second) = (if condition then first else second) ∧
        Unbroken (if condition then first else second) := by
    split
    · exact one
    · exact other
  unfold reasonPhrase
  repeat refine either (by decide) ?_
  decide

/-- A target that a request line can hold: neither empty, nor broken, nor with blanks around it. -/
def Aimed (uri : Bytes) : Prop := uri ≠ [] ∧ Unbroken uri ∧ trim uri = uri

theorem Packet.Tidy.allowed (tidy : packet.Tidy random target)
    (aims : ∀ uri, target uri → Aimed uri) : packet.start.Allowed := by
  have token : ∀ method ∈ ownMethods, isToken method = true := by decide
  cases packet with
  | request content branch =>
    obtain ⟨nonempty, unbroken, trimmed⟩ := aims _ tidy.1.uri
    exact ⟨token _ tidy.1.method, nonempty, unbroken, trimmed⟩
  | response content =>
    obtain ⟨trimmed, unbroken⟩ := trim_reasonPhrase content.status
    exact ⟨tidy.status.1, tidy.status.2, unbroken, trimmed⟩
  | ackForFailure context recipient =>
    obtain ⟨nonempty, unbroken, trimmed⟩ := aims _ tidy.1.uri
    exact ⟨by decide, nonempty, unbroken, trimmed⟩

theorem Packet.Tidy.body (tidy : packet.Tidy random target) : packet.body.length < 2 ^ 64 := by
  cases packet with
  | request content branch => exact tidy.1.body
  | response content => exact Response.Tidy.body tidy
  | ackForFailure context recipient => exact Nat.two_pow_pos 64

theorem Packet.Tidy.sound (tidy : packet.Tidy random target) (unbroken : config.Unbroken)
    (hexadecimal : random.Hexadecimal) (line : packet.start.text ≠ [] ∧ 10 ∉ packet.start.text) :
    (packet.builder config).Sound where
  startLine := line
  names entry member := headerNames_allowed _ (tidy.headers unbroken hexadecimal entry member).1
  values entry member := (tidy.headers unbroken hexadecimal entry member).2
  contentType _ := (by decide : (10 : UInt8) ∉ ascii "application/sdp")

theorem Packet.Tidy.wellFormed (tidy : packet.Tidy random target)
    (aims : ∀ uri, target uri → Aimed uri) (unbroken : config.Unbroken)
    (hexadecimal : random.Hexadecimal) : packet.WellFormed config := by
  have allowed := tidy.allowed aims
  have sound := tidy.sound unbroken hexadecimal allowed.line
  have type : trim (ascii "application/sdp") = ascii "application/sdp" := by decide
  unfold Packet.WellFormed
  rw [packet.bytes_eq, sound.parsed_build tidy.body, MessageBuilder.parsedHeaders_eq]
  unfold Packet.builder Packet.message
  dsimp only
  rw [allowed.parse, type]
  rfl

end Reading

end KetPhone.Core
