/-
This file proves that a response finds its own transaction. A request of the agent
goes to a peer, which parses it and builds a response from its headers; what comes
back is parsed again, and the branch of its first Via and the method of its CSeq
are the key under which the transaction is kept. The key survives all four
transformations, and different requests have different keys.
-/

import KetPhone.UserAgent.Finishing
import KetPhone.UserAgent.Tidying

namespace KetPhone.Core

open Sip List OrderedMap UserAgent

variable {method branch via : Bytes} {random : Random} {config : UserAgentConfig}
  {message : Message} {number : UInt32}

/-! ### Values with nothing around them -/

/-- A configuration without the marks that the grammar of a Via value gives a meaning. -/
structure UserAgentConfig.Separated (config : UserAgentConfig) : Prop extends
    config.Unbroken where
  transportMarks : ∀ byte ∈ config.transport, byte ∉ ascii ",;<>"
  addressMarks : ∀ byte ∈ config.localAddress, byte ∉ ascii ",;<>"

section Via

variable {config : UserAgentConfig}

/-- A text without the marks that separate. -/
def Unmarked (text : Bytes) : Prop := ∀ byte ∈ text, byte ∉ ascii ",;<>"

instance (text : Bytes) : Decidable (Unmarked text) := inferInstanceAs (Decidable (∀ _ ∈ _, _))

theorem unmarked_append {first second : Bytes} :
    Unmarked (first ++ second) ↔ Unmarked first ∧ Unmarked second :=
  forall_mem_append

theorem unmarked_decimal (number : Nat) : Unmarked (decimal number) := by
  intro byte member mark
  have digit := isDigit_of_mem_decimal member
  have closed : ∀ other ∈ ascii ",;<>", isDigit other = false := by decide +kernel
  rw [closed byte mark] at digit
  cases digit

theorem unmarked_sentBy (separated : config.Separated) : Unmarked config.sentBy := by
  have host : Unmarked (sipHost config.localAddress) := by
    unfold sipHost
    split
    · exact unmarked_append.mpr
        ⟨unmarked_append.mpr ⟨by decide +kernel, separated.addressMarks⟩, by decide +kernel⟩
    · exact separated.addressMarks
  unfold UserAgentConfig.sentBy
  refine unmarked_append.mpr ⟨host, ?_⟩
  split
  · exact fun _ missing => absurd missing not_mem_nil
  · exact unmarked_append.mpr ⟨by decide +kernel, unmarked_decimal _⟩

/-- What stands before the parameters of a Via value. -/
def UserAgentConfig.sender (config : UserAgentConfig) : Bytes :=
  ascii "SIP/2.0/" ++ config.transport ++ ascii " " ++ config.sentBy

theorem unmarked_sender (separated : config.Separated) : Unmarked config.sender := by
  unfold UserAgentConfig.sender
  simp only [unmarked_append]
  exact ⟨⟨⟨by decide +kernel, separated.transportMarks⟩, by decide +kernel⟩,
    unmarked_sentBy separated⟩

theorem UserAgentConfig.via_eq (config : UserAgentConfig) (branch : Bytes) :
    config.via branch =
      config.sender ++ 59 :: (ascii "branch=" ++ branch ++ 59 :: ascii "rport") := by
  have first : ascii ";branch=" = 59 :: ascii "branch=" := by decide
  have second : ascii ";rport" = 59 :: ascii "rport" := by decide
  unfold UserAgentConfig.via UserAgentConfig.sender
  rw [first, second]
  simp only [append_assoc, cons_append]

/-- The bytes a drawn branch can have. -/
def branchBytes : Bytes := ascii "z9hG4bK" ++ kHex

theorem branchBytes_plain :
    ∀ byte ∈ branchBytes, byte ∉ ascii ",;<>" ∧ isTrailing byte = false := by
  decide +kernel

theorem Random.Drew.subset (drew : random.Drew branch) (hexadecimal : random.Hexadecimal) :
    branch ⊆ branchBytes := by
  obtain ⟨draw, rfl⟩ := drew
  intro byte member
  rcases mem_append.mp member with front | digits
  · exact mem_append_left _ front
  · exact mem_append_right _ (hexadecimal draw 10 digits)

theorem trim_via (config : UserAgentConfig) (branch : Bytes) :
    trim (config.via branch) = config.via branch := by
  have whole : config.via branch = ascii "SIP/2.0/" ++ (config.transport ++ ascii " " ++
      config.sentBy ++ ascii ";branch=" ++ branch) ++ ascii ";rport" := by
    simp only [UserAgentConfig.via, append_assoc]
  rw [whole]
  exact trim_between _ (by decide) (by decide +kernel) (by decide) (by decide +kernel)

theorem notMem_via (separated : config.Separated) (plain : Unmarked branch) {byte : UInt8}
    (mark : byte ∈ ascii ",<>") : byte ∉ config.via branch := by
  have wider : ∀ byte ∈ ascii ",<>", byte ∈ ascii ",;<>" ∧ byte ∉ ascii ";branch=" ∧
      byte ∉ ascii ";rport" := by decide +kernel
  obtain ⟨known, noBranch, noRport⟩ := wider byte mark
  have sender : byte ∉ config.sender := fun member => unmarked_sender separated byte member known
  have via :
      config.via branch = config.sender ++ ascii ";branch=" ++ branch ++ ascii ";rport" := rfl
  rw [via]
  simp only [mem_append, not_or]
  exact ⟨⟨⟨sender, noBranch⟩, fun member => plain byte member known⟩, noRport⟩

theorem unquoteParam_branch (random : Random) (draw : Nat) :
    unquoteParam (random.branch draw) = random.branch draw := by
  have front : (random.branch draw).head? ≠ some 34 := by
    have letter : ascii "z9hG4bK" = 122 :: ascii "9hG4bK" := by decide
    unfold Random.branch
    rw [letter]
    exact (by decide : some (122 : UInt8) ≠ some 34)
  unfold unquoteParam
  exact if_neg fun quoted => front quoted.2.1

/-- The branch is read from a Via value. -/
theorem paramOf_via (separated : config.Separated) (drew : random.Drew branch)
    (hexadecimal : random.Hexadecimal) :
    paramOf (upTo (findByte 44 (config.via branch)) (config.via branch)) "branch" =
      some branch := by
  have plain : Unmarked branch :=
    fun byte member => (branchBytes_plain byte (drew.subset hexadecimal member)).1
  have solid : trim branch = branch :=
    trim_eq_self fun byte member => (branchBytes_plain byte (drew.subset hexadecimal member)).2
  have noComma : findByte 44 (config.via branch) = none :=
    findByte_eq_none.mpr (notMem_via separated plain (by decide))
  have noAngle : findByte 62 (config.via branch) = none :=
    findByte_eq_none.mpr (notMem_via separated plain (by decide))
  have semicolon : findByte 59 (config.via branch) = some config.sender.length := by
    rw [config.via_eq]
    exact findByte_append (fun member => unmarked_sender separated 59 member (by decide)) _
  have rest : (config.via branch).drop (config.sender.length + 1) =
      (ascii "branch=" ++ branch) ++ 59 :: ascii "rport" := by
    rw [config.via_eq, drop_length_add_append]
    rfl
  have parameter :
      upTo (findFirstOf (ascii ";,") ((ascii "branch=" ++ branch) ++ 59 :: ascii "rport"))
      ((ascii "branch=" ++ branch) ++ 59 :: ascii "rport") = ascii "branch" ++ 61 :: branch := by
    have absent : ∀ byte ∈ ascii "branch=" ++ branch, byte ∉ ascii ";," := by
      have own : ∀ byte ∈ ascii "branch=", byte ∉ ascii ";," := by decide +kernel
      have wider : ∀ byte ∈ ascii ";,", byte ∈ ascii ",;<>" := by decide +kernel
      exact forall_mem_append.mpr
        ⟨own, fun byte member mark => plain byte member (wider byte mark)⟩
    rw [findFirstOf_append absent (by decide)]
    show List.take _ _ = _
    rw [take_left, (by decide : ascii "branch=" = ascii "branch" ++ [61]), append_assoc]
    rfl
  have equals : findByte 61 (ascii "branch" ++ 61 :: branch) = some 6 :=
    findByte_append (by decide) branch
  have name : iequals (trim (ascii "branch")) (ascii "branch") = true := by decide
  obtain ⟨draw, rfl⟩ := drew
  rw [noComma]
  unfold paramOf
  rw [show upTo none (config.via (random.branch draw)) = config.via (random.branch draw) from rfl,
    noAngle]
  unfold paramsLoop
  dsimp only
  rw [semicolon]
  dsimp only
  rw [rest, parameter, equals]
  show (if iequals (trim (ascii "branch")) (ascii "branch") = true then _ else _) = _
  rw [if_pos name]
  show some (unquoteParam (trim (random.branch draw))) = _
  rw [solid, unquoteParam_branch]

end Via

/-! ### CSeq values -/

theorem ownMethods_plain : ∀ method ∈ ownMethods, method ≠ [] ∧ Solid method ∧ 32 ∉ method := by
  decide +kernel

theorem solid_decimal (number : Nat) : Solid (decimal number) :=
  fun _ member => isDigit_not_isTrailing (isDigit_of_mem_decimal member)

/-- The number and the method of a request. -/
def cseqText (number : UInt32) (method : Bytes) : Bytes :=
  decimal number.toNat ++ ascii " " ++ method

theorem trim_cseqText (number : UInt32) (own : method ∈ ownMethods) :
    trim (cseqText number method) = cseqText number method := by
  obtain ⟨nonempty, solid, -⟩ := ownMethods_plain method own
  exact trim_between _ (decimal_ne_nil _) (solid_decimal _) nonempty solid

theorem parseCseq_cseqText (number : UInt32) (own : method ∈ ownMethods) :
    parseCseq (cseqText number method) = some { number, method } := by
  obtain ⟨nonempty, solid, -⟩ := ownMethods_plain method own
  have text : cseqText number method = decimal number.toNat ++ 32 :: method := by
    unfold cseqText
    rw [(by decide : ascii " " = [32]), append_assoc]
    rfl
  have space : findFirstOf (ascii " \t") (decimal number.toNat ++ 32 :: method) =
      some (decimal number.toNat).length := by
    have blanks : ∀ byte ∈ ascii " \t", isTrailing byte = true := by decide +kernel
    refine findFirstOf_append (fun byte member blank => ?_) (by decide) method
    exact Bool.false_ne_true ((solid_decimal _ byte member).symm.trans (blanks byte blank))
  have value : parseInteger 32 (decimal number.toNat) = some number.toNat := by
    unfold parseInteger
    rw [trim_decimal, fromChars_decimal number.toNat_lt]
  have word : trim (32 :: method) = method := by
    rw [trim_cons_of_blank (by decide), trim_eq_self solid]
  unfold parseCseq
  rw [trim_cseqText number own, text]
  dsimp only
  rw [space]
  dsimp only
  rw [take_left, drop_left, value, word]
  dsimp only
  rw [if_neg nonempty, UInt32.ofNat_toNat]

/-! ### Reading headers -/

/-- The headers in which a response names its transaction. -/
structure Names (message : Message) (via : Bytes) (number : UInt32) (method : Bytes) : Prop where
  vias : ∃ more, message.headerAll "via" = via :: more
  cseq : message.headerOr "cseq" = cseqText number method

theorem names_of_headers (front : Headers) (others : ∀ entry ∈ front, entry.1 ≠ ascii "cseq")
    (shape : ∃ rest, message.headers =
      (ascii "via", via) :: (front ++ (ascii "cseq", cseqText number method) :: rest)) :
    Names message via number method := by
  obtain ⟨rest, shape⟩ := shape
  have skipped : front.value (ascii "cseq") = none := by
    unfold Headers.value
    rw [Option.map_eq_none_iff, List.find?_eq_none]
    exact fun entry member => by simpa using others entry member
  refine ⟨⟨((front ++ (ascii "cseq", cseqText number method) :: rest).filter fun entry =>
    entry.1 == ascii "via").map Prod.snd, ?_⟩, ?_⟩
  · unfold Message.headerAll
    rw [shape, filter_cons, if_pos (beq_iff_eq.mpr rfl), map_cons]
  · unfold Message.headerOr Message.header
    rw [shape, value_cons_ne _ _ (by decide), value_append, skipped, value_cons_self]
    rfl

/-- A header of this side as the parser returns it. -/
def read (entry : Bytes × Bytes) : Bytes × Bytes := (canonicalName entry.1, trim entry.2)

theorem read_via (trimmed : trim via = via) : read (ascii "Via", via) = (ascii "via", via) := by
  unfold read
  rw [trimmed, (by decide : canonicalName (ascii "Via") = ascii "via")]

theorem read_cseq (number : UInt32) (own : method ∈ ownMethods) :
    read (ascii "CSeq", cseqText number method) = (ascii "cseq", cseqText number method) := by
  unfold read
  rw [trim_cseqText number own, (by decide : canonicalName (ascii "CSeq") = ascii "cseq")]

theorem read_ne_cseq : ∀ name ∈ [ascii "Via", ascii "Max-Forwards", ascii "From", ascii "To",
    ascii "Call-ID"], ∀ value, (read (name, value)).1 ≠ ascii "cseq" := by
  have names : ∀ name ∈ [ascii "Via", ascii "Max-Forwards", ascii "From", ascii "To",
      ascii "Call-ID"], canonicalName name ≠ ascii "cseq" := by decide
  exact fun name member _ => names name member

/-- A request of the agent, once it is parsed. -/
theorem names_of_request {content : Request} (unbroken : config.Unbroken)
    (hexadecimal : random.Hexadecimal)
    (tidy : Packet.Tidy random Unbroken (.request content branch))
    (parsed : parseMessage ((Packet.request content branch).bytes config) = some message) :
    Names message (config.via branch) content.cseq content.method := by
  have plain : ∀ method ∈ ownMethods, method ≠ [] ∧ Unbroken method := by decide
  obtain ⟨nonempty, line⟩ := plain content.method tidy.1.method
  have start : (Packet.request content branch).start.text ≠ [] ∧
      10 ∉ (Packet.request content branch).start.text := by
    refine ⟨?_, ?_⟩
    · repeat refine append_ne_nil_of_left_ne_nil ?_ _
      exact nonempty
    · exact unbroken_append.mpr ⟨unbroken_append.mpr
        ⟨unbroken_append.mpr ⟨line, by decide⟩, tidy.1.uri⟩, by decide⟩
  have sound := tidy.sound unbroken hexadecimal start
  rw [Packet.bytes_eq, sound.parsed_build tidy.body, Option.map_eq_some_iff] at parsed
  obtain ⟨first, -, rfl⟩ := parsed
  refine names_of_headers [read (ascii "Max-Forwards", ascii "70"),
    read (ascii "From", content.sender), read (ascii "To", content.recipient),
    read (ascii "Call-ID", content.callId)] ?_ ?_
  · simp only [forall_mem_cons]
    exact ⟨read_ne_cseq _ (by decide) _, read_ne_cseq _ (by decide) _,
      read_ne_cseq _ (by decide) _, read_ne_cseq _ (by decide) _,
      fun _ missing => absurd missing not_mem_nil⟩
  · obtain ⟨more, whole⟩ : ∃ more, (Packet.request content branch).headers config =
        [(ascii "Via", config.via branch), (ascii "Max-Forwards", ascii "70"),
          (ascii "From", content.sender), (ascii "To", content.recipient),
          (ascii "Call-ID", content.callId),
          (ascii "CSeq", cseqText content.cseq content.method)] ++ more :=
      ⟨_, (append_assoc _ _ _).trans (append_assoc _ _ _)⟩
    show ∃ rest, MessageBuilder.parsedHeaders _ = _
    rw [MessageBuilder.parsedHeaders_eq, ← read_via (trim_via config branch),
      ← read_cseq content.cseq tidy.1.method]
    show ∃ rest, List.map read ((Packet.request content branch).headers config) ++ _ ++ _ = _
    rw [whole, map_append, append_assoc, append_assoc]
    exact ⟨_, rfl⟩

/-- The response that a peer builds to a request, once it is parsed. -/
theorem names_of_response {peer : UserAgentConfig} {content : Response} (own : method ∈ ownMethods)
    (trimmed : trim via = via) (names : Names content.request via number method) :
    Names ((Packet.response content).message peer) via number method := by
  obtain ⟨⟨more, vias⟩, cseq⟩ := names
  refine names_of_headers (more.map (fun via => read (ascii "Via", via)) ++
    [read (ascii "From", content.request.headerOr "from"),
      read (ascii "To", if content.toTag ≠ [] ∧ 100 < content.status then
        tagged (content.request.headerOr "to") content.toTag else content.request.headerOr "to"),
      read (ascii "Call-ID", content.request.headerOr "call-id")]) ?_ ?_
  · refine forall_mem_append.mpr ⟨fun entry member => ?_, ?_⟩
    · obtain ⟨value, -, rfl⟩ := mem_map.mp member
      exact read_ne_cseq _ (by decide) value
    · simp only [forall_mem_cons]
      exact ⟨read_ne_cseq _ (by decide) _, read_ne_cseq _ (by decide) _,
        read_ne_cseq _ (by decide) _, fun _ missing => absurd missing not_mem_nil⟩
  · show ∃ rest, List.map read ((Packet.response content).headers peer) ++ _ ++ _ = _
    rw [← read_via trimmed, ← read_cseq number own]
    simp only [Packet.headers, vias, cseq, map_cons, map_append, map_map,
      append_assoc, cons_append, nil_append]
    exact ⟨_, rfl⟩

/-! ### Keys -/

/-- The key of a response is that of the request it was built for. -/
theorem Names.responseKey (names : Names message (config.via branch) number method)
    (own : method ∈ ownMethods) (separated : config.Separated) (drew : random.Drew branch)
    (hexadecimal : random.Hexadecimal) :
    UserAgent.responseKey message = some (transactionKey branch method) := by
  obtain ⟨⟨more, vias⟩, cseq⟩ := names
  have via : message.header "via" = some (config.via branch) := by
    unfold Message.headerAll at vias
    unfold Message.header Headers.value
    rw [← List.head?_filter, ← List.head?_map, vias]
    rfl
  have named : branchOf message = branch := by
    unfold branchOf
    rw [via]
    show (paramOf _ "branch").getD [] = branch
    rw [paramOf_via separated drew hexadecimal]
    rfl
  unfold UserAgent.responseKey
  rw [cseq, parseCseq_cseqText number own, named]
  rfl

theorem transactionKey_inj {first second other : Bytes} (own : method ∈ ownMethods)
    (known : other ∈ ownMethods)
    (same : transactionKey first method = transactionKey second other) :
    first = second ∧ method = other := by
  have text (branch method : Bytes) : transactionKey branch method = branch ++ 32 :: method := by
    unfold transactionKey
    rw [(by decide : ascii " " = [32]), append_assoc]
    rfl
  rw [text, text] at same
  have last := findLastByte_append first (ownMethods_plain method own).2.2
  rw [same, findLastByte_append second (ownMethods_plain other known).2.2] at last
  have length := (Option.some.inj last).symm
  obtain ⟨branches, rest⟩ := append_inj same length
  exact ⟨branches, (List.cons.inj rest).2⟩

/-! ### Matching -/

variable {Host : Type}

theorem setting_unbroken (unbroken : config.Unbroken) (hexadecimal : random.Hexadecimal) :
    Setting Unbroken config random where
  unbroken := unbroken
  hexadecimal := hexadecimal
  plain _ line := line
  registrar := unbroken_append.mpr ⟨by decide, unbroken_sipHost unbroken.domain⟩
  dialled number valid := by
    have line := (plain_of_validTarget valid).1
    simp only [unbroken_append]
    exact ⟨⟨⟨by decide, line⟩, by decide⟩, unbroken_sipHost unbroken.domain⟩
  located value line _ := line.part (uriOf_subset value)

theorem UserAgent.Tidy.targeted {agent : UserAgent Host} (tidy : agent.Tidy Unbroken) (op : Op) :
    agent.Targeted Unbroken op := by
  have target {call : Call} (kept : agent.current = some call) : Unbroken call.remoteTarget := by
    by_cases empty : call.remoteTarget = []
    · exact empty ▸ unbroken_nil
    · exact (tidy.current call kept).remoteTarget empty
  cases op with
  | message datagram now =>
    intro response transaction context answers handler success value found
    exact ((unbroken_parseMessage answers.1).header found).part (uriOf_subset value)
  | hangup id now => exact fun call kept _ _ => target kept
  | shutdown now => exact fun call kept _ => target kept
  | timer now => exact fun call kept _ _ => target kept
  | _ => trivial

/-- A datagram is taken for an answer to a pending transaction. -/
def UserAgent.Selects (agent : UserAgent Host) (datagram : Bytes) (transaction : Transaction) :
    Prop :=
  ∃ response, agent.Answers datagram response transaction

/-- A tidy agent finds the transaction of a request by any response to it. -/
theorem selects_iff {agent : UserAgent Host} (tidy : agent.Tidy Unbroken)
    (separated : agent.config.Separated) {content : Request}
    (sent : .sendSip (.request content branch) ∈ agent.log) {request : Message}
    (parsed : parseMessage ((Packet.request content branch).bytes agent.config) = some request)
    {peer : UserAgentConfig} (unbroken : peer.Unbroken) {status : Int} (low : 100 ≤ status)
    (high : status ≤ 699) {toTag body : Bytes} (line : Unbroken toTag)
    (short : body.length < 2 ^ 64) {transaction : Transaction}
    (pending : transaction ∈ agent.transactions.values) :
    agent.Selects ((Packet.response { request, status, toTag, body }).bytes peer) transaction ↔
      transaction.ticket = (branch, content.method) := by
  obtain ⟨clean, drew⟩ := tidy.sent _ sent
  have hexadecimal := tidy.setting.hexadecimal
  have names := names_of_request separated.toUnbroken hexadecimal ⟨clean, drew⟩ parsed
  have response : Packet.Tidy agent.random (fun _ => False)
      (.response { request, status, toTag, body }) :=
    Response.tidy (unbroken_parseMessage parsed) line short low high
  have answer := response.wellFormed (fun _ => False.elim) unbroken hexadecimal
  have named : Names ((Packet.response { request, status, toTag, body }).message peer)
      (agent.config.via branch) content.cseq content.method :=
    names_of_response clean.method (trim_via agent.config branch) names
  have key := named.responseKey clean.method separated drew hexadecimal
  have own : transaction.method ∈ ownMethods := (tidy.pending transaction pending).1.method
  constructor
  · rintro ⟨message, again, -, found, known, kept⟩
    cases answer.symm.trans again
    cases key.symm.trans known
    have same := (find_eq_some_iff.mp kept).2
    obtain ⟨branches, methods⟩ := transactionKey_inj own clean.method same
    exact Prod.ext branches methods
  · intro same
    refine ⟨_, answer, rfl, _, key, find_eq_some_iff.mpr ⟨pending, ?_⟩⟩
    obtain ⟨branches, methods⟩ := Prod.mk.inj same
    unfold Transaction.key
    rw [branches, methods]

/-- What holds between the requests of an agent and the responses to them. -/
structure Matched (config : UserAgentConfig) (state : Traced Host) : Prop where
  /-- No two requests that wait for an answer have the same branch and method. -/
  once : (launched state.trace).Nodup
  started : ∀ transaction ∈ state.agent.transactions.values,
    .acts (.sendSip transaction.packet) ∈ state.trace
  /-- What a peer answers to a request finds the transaction of this request and no other. -/
  finds : ∀ content branch, .sendSip (.request content branch) ∈ state.agent.log →
    ∀ request, parseMessage ((Packet.request content branch).bytes config) = some request →
      ∀ peer : UserAgentConfig, peer.Unbroken → ∀ status : Int, 100 ≤ status → status ≤ 699 →
        ∀ toTag, Unbroken toTag → ∀ body : Bytes, body.length < 2 ^ 64 →
          ∀ transaction ∈ state.agent.transactions.values,
            (state.agent.Selects
                ((Packet.response { request, status, toTag, body }).bytes peer) transaction ↔
              transaction.ticket = (branch, content.method))

/-- In every run a response finds its own transaction, while the branches drawn differ. -/
theorem responses_matched [UserAgentHost Host] {config : UserAgentConfig}
    (separated : config.Separated) (host : Host) {random : Random}
    (hexadecimal : random.Hexadecimal) (ops : List Op)
    (distinct : random.Distinct
      (run UserAgent.step (UserAgent.create config host random) ops).draws) :
    Matched config (run Traced.step (Traced.create config host random) ops) := by
  have agent := (Traced.create config host random).run_agent ops
  have accounted := (Accounted.create config host random).run ops (by
    rw [agent, run_random]
    exact distinct)
  have kept : (run UserAgent.step (UserAgent.create config host random) ops).config = config ∧
      (run UserAgent.step (UserAgent.create config host random) ops).Tidy Unbroken :=
    loop_keeps (fun agent : UserAgent Host => agent.config = config ∧ agent.Tidy Unbroken) ops
      (fun agent op _ kept =>
        ⟨(agent.step_drives op).1.trans kept.1, kept.2.step (kept.2.targeted op)⟩)
      ⟨rfl, UserAgent.Tidy.create (setting_unbroken separated.toUnbroken hexadecimal) host⟩
  refine ⟨accounted.nodup, fun transaction pending =>
    (accounted.books.pending transaction pending).1, ?_⟩
  rw [agent]
  obtain ⟨fixed, tidy⟩ := kept
  intro content branch sent request parsed peer unbroken status low high toTag line body short
    transaction pending
  exact selects_iff tidy (fixed.symm ▸ separated) sent (fixed.symm ▸ parsed) unbroken low high line
    short pending

/-- A REGISTER is sent, parsed by a peer, and the peer's 200 finds it. -/
theorem registered_matched :
    Matched UserAgent.ideal.config (run Traced.step
      (Traced.create UserAgent.ideal.config ({} : IdealHost) Random.counting)
        [.startRegistration 0]) :=
  responses_matched
    ⟨⟨by decide, by decide, by decide, by decide, by decide, by decide⟩, by decide +kernel,
      by decide +kernel⟩ _ Random.counting_hexadecimal _ (Random.counting_distinct _)

/-- The REGISTER of an agent that has just begun, as a peer parses it. -/
def parsedRegister : Message :=
  (((UserAgent.ideal.step (.startRegistration 0)).transactions.values.head?).bind
    fun transaction => parseMessage (transaction.packet.bytes UserAgent.ideal.config)).getD {}

/-- The transaction that a peer's answer to this REGISTER selects. -/
def answeredBy (status : Int) (toTag : Bytes) : Option Bytes :=
  (parseMessage ((Packet.response { request := parsedRegister, status, toTag }).bytes
    UserAgent.ideal.config)).bind fun response => (UserAgent.responseKey response).bind fun key =>
      ((UserAgent.ideal.step (.startRegistration 0)).transactions.find key).map Transaction.key

/-- A status that is none and a tag with a line feed are lost on the way. -/
theorem strangeAnswers_not_matched :
    parsedRegister.method = ascii "REGISTER" ∧
      answeredBy 200 (ascii "a") = some (ascii "z9hG4bK2 REGISTER") ∧
      answeredBy 700 (ascii "a") = none ∧
      answeredBy 200 (ascii "a\r\nCSeq: 1 INVITE") = none := by
  decide +kernel

end KetPhone.Core
