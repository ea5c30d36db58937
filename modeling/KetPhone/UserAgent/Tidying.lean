/-
This file follows the texts of the agent through all its operations. Its own
texts, what it keeps of its call and what waits for an answer never hold a line
feed, and every target comes from the configuration, from the number that was
dialled or from a Contact or From header. What counts as a target is a parameter:
any unbroken text, for which nothing more is needed, or one that a request line
can hold, for which no ACK and no BYE may go to an empty target.
-/

import KetPhone.UserAgent.Sending
import KetPhone.UserAgent.Dialogs
import KetPhone.UserAgent.Keys
import KetPhone.UserAgent.Transacting

namespace KetPhone.Core

open Sip List OrderedMap UserAgent

variable {Host : Type}

/-! ### What is kept -/

/-- What the configuration, the generator and the targets keep to. -/
structure Setting (target : Bytes → Prop) (config : UserAgentConfig) (random : Random) : Prop where
  unbroken : config.Unbroken
  hexadecimal : random.Hexadecimal
  plain : ∀ uri, target uri → Unbroken uri
  registrar : target config.registrar
  dialled : ∀ number, UserAgent.validTarget number = true →
    target (ascii "sip:" ++ number ++ ascii "@" ++ sipHost config.domain)
  located : ∀ value, Unbroken value → uriOf value ≠ [] → target (uriOf value)

/-- A call whose texts are unbroken. -/
structure Call.Tidy (random : Random) (target : Bytes → Prop) (call : Call) : Prop where
  sipCallId : Unbroken call.sipCallId
  localTag : Unbroken call.localTag
  localHeader : Unbroken call.localHeader
  remoteHeader : Unbroken call.remoteHeader
  remoteTarget : call.remoteTarget ≠ [] → target call.remoteTarget
  inviteUri : call.state = .calling ∨ call.inviteBranch ≠ [] → target call.inviteUri
  inviteBranch : call.inviteBranch ≠ [] → random.Drew call.inviteBranch
  ack : ∀ ack, call.ack = some ack → ack.packet.Tidy random target
  invite : ∀ request, call.invite = some request → request.Unbroken
  lastResponse : ∀ response, call.lastResponse = some response → response.Tidy
  localSdp : call.localSdp.length < 2 ^ 64
  srtpKey : call.srtpKey.length ≤ kSdesKeyLength

/-- An agent whose texts are unbroken, and with them everything it has sent. -/
structure UserAgent.Tidy (target : Bytes → Prop) (agent : UserAgent Host) : Prop where
  setting : Setting target agent.config agent.random
  callId : Unbroken agent.registration.callId
  fromTag : Unbroken agent.registration.fromTag
  current : ∀ call, agent.current = some call → call.Tidy agent.random target
  pending : ∀ transaction ∈ agent.transactions.values,
    transaction.packet.Tidy agent.random target
  sent : ∀ packet, .sendSip packet ∈ agent.log → packet.Tidy agent.random target

/-! ### Descriptions -/

theorem length_decimal_le {number digits : Nat} (positive : 0 < digits)
    (small : number < 10 ^ digits) : (decimal number).length ≤ digits := by
  unfold decimal
  rw [length_map]
  exact (Nat.length_toDigits_le_iff (by decide) positive).mpr small

theorem length_base64Encode_le (key : Bytes) : (base64Encode key).length ≤ 4 * key.length := by
  fun_induction base64Encode key with
  | case1 first second third rest triple hypothesis =>
    simp only [length_cons]
    omega
  | case2 => simp
  | case3 => simp
  | case4 => simp

/-- A description is longer than its address, twice, by what its numbers and its key take. -/
theorem length_buildAudioSdp_le (address : Bytes) (port : UInt16) (session version : UInt64)
    (crypto : Option LocalCrypto)
    (short : ∀ own, crypto = some own → own.key.length ≤ kSdesKeyLength) :
    (buildAudioSdp address port session version crypto).length ≤ 2 * address.length + 1000 := by
  have wide (value : UInt64) : (decimal value.toNat).length ≤ 20 :=
    length_decimal_le (by decide) (lt_trans value.toNat_lt (by decide))
  have word (value : UInt32) : (decimal value.toNat).length ≤ 10 :=
    length_decimal_le (by decide) (lt_trans value.toNat_lt (by decide))
  have half : (decimal port.toNat).length ≤ 5 :=
    length_decimal_le (by decide) (lt_trans port.toNat_lt (by decide))
  have text {condition : Prop} [Decidable condition] {first second : Bytes}
      (one : first.length ≤ 8) (other : second.length ≤ 8) :
      (if condition then first else second).length ≤ 8 := by
    split <;> assumption
  have first := wide session
  have second := wide version
  have family := @text ((findByte 58 address).isNone = true) _ (ascii "IP4") (ascii "IP6")
    (by decide) (by decide)
  have profile := @text (crypto.any LocalCrypto.savp = true) _ (ascii "RTP/SAVP")
    (ascii "RTP/AVP") (by decide) (by decide)
  have sizes : (ascii "v=0\r\n").length = 5 ∧ (ascii "o=- ").length = 4 ∧ (ascii " ").length = 1 ∧
      (ascii " IN ").length = 4 ∧ (ascii "\r\n").length = 2 ∧ (ascii "s=KetPhone\r\n").length = 12 ∧
      (ascii "c=IN ").length = 5 ∧ (ascii "t=0 0\r\n").length = 7 ∧ (ascii "m=audio ").length = 8 ∧
      (ascii "a=rtpmap:8 PCMA/8000\r\n").length = 22 ∧ (ascii "a=rtpmap:").length = 9 ∧
      (ascii " telephone-event/8000\r\n").length = 23 ∧ (ascii "a=fmtp:").length = 7 ∧
      (ascii " 0-16\r\n").length = 7 ∧ (ascii "a=ptime:20\r\n").length = 12 ∧
      (ascii "a=sendrecv\r\n").length = 12 ∧ (decimal kPayloadPcma.toNat).length = 1 ∧
      (decimal kPayloadTelephoneEvent.toNat).length = 3 ∧ (ascii "a=crypto:").length = 9 ∧
      kSdesSuite.length = 23 ∧ (ascii " inline:").length = 8 := by decide
  unfold buildAudioSdp
  cases crypto with
  | none =>
    simp only [length_append, length_nil, sizes]
    omega
  | some own =>
    have encoded := length_base64Encode_le own.key
    have key : own.key.length ≤ 30 := short own rfl
    have tag := word own.tag
    simp only [length_append, sizes]
    omega

section Texts

variable {target : Bytes → Prop} {config : UserAgentConfig} {random : Random} {call : Call}

theorem UserAgentConfig.Unbroken.localSdpFor (unbroken : config.Unbroken)
    (short : call.srtpKey.length ≤ kSdesKeyLength) (answering : Option AudioDescription) :
    (config.localSdpFor call answering).1.length < 2 ^ 64 := by
  have keyed : ∀ own, config.localCryptoFor call answering = some own →
      own.key.length ≤ kSdesKeyLength := by
    intro own chosen
    unfold UserAgentConfig.localCryptoFor at chosen
    split at chosen
    · split at chosen
      · cases chosen
        exact short
      · split at chosen <;> cases chosen <;> exact short
    · cases chosen
  have length : (config.localSdpFor call answering).1.length ≤ _ :=
    length_buildAudioSdp_le config.localAddress call.mediaPort call.sdpSession call.sdpVersion
      (config.localCryptoFor call answering) keyed
  have fits := unbroken.fits
  omega

theorem UserAgentConfig.Unbroken.describes (unbroken : config.Unbroken)
    {answering : Option AudioDescription} {srtpKey sdp : Bytes}
    (short : srtpKey.length ≤ kSdesKeyLength)
    (described : config.Describes answering srtpKey sdp) : sdp.length < 2 ^ 64 := by
  obtain ⟨call, rfl, built⟩ := described
  rw [built]
  exact unbroken.localSdpFor short answering

/-- An authorization line that becomes one header. -/
def Authorized (line : Bytes) : Prop :=
  ∀ entry ∈ UserAgent.authorizationHeader line, entry.1 ∈ extraNames ∧ Unbroken entry.2

theorem authorized_nil : Authorized [] := fun _ missing => absurd missing not_mem_nil

theorem authorized_of_name {name value : Bytes} (known : name ∈ extraNames)
    (colonless : 58 ∉ name) (line : Unbroken value) :
    Authorized (name ++ ascii ": " ++ value) := by
  have whole : name ++ ascii ": " ++ value = name ++ 58 :: 32 :: value := by
    rw [(by decide : ascii ": " = [58, 32]), append_assoc]
    rfl
  have text : name ++ 58 :: 32 :: value ≠ [] :=
    append_ne_nil_of_right_ne_nil _ (cons_ne_nil _ _)
  have rest : Unbroken (32 :: value) := unbroken_append.mpr ⟨(by decide : Unbroken [32]), line⟩
  unfold Authorized authorizationHeader
  rw [whole, if_neg text, findByte_append colonless]
  refine forall_mem_singleton.mpr ⟨?_, ?_⟩
  · rw [take_left]
    exact known
  · rw [drop_length_add_append]
    exact rest.part (trim_subset _)

/-- An answer to a challenge is an authorization line. -/
theorem authorized_of_challenge {agent : UserAgent Host} {challenge : Message}
    {method uri line : Bytes} (setting : Setting target agent.config agent.random)
    (unbroken : challenge.Unbroken) (plain : Unbroken uri)
    (answered : (agent.authorizationFor challenge method uri).1 = some line) :
    Authorized line := by
  unfold authorizationFor at answered
  dsimp only at answered
  split at answered
  · cases answered
  next value found =>
    split at answered
    · cases answered
    next parsed read =>
      obtain ⟨authorization, made, rfl⟩ := Option.map_eq_some_iff.mp answered
      have nonce : Unbroken (if parsed.qopAuth then agent.nextHex 8 else []) := by
        split
        · exact setting.hexadecimal.unbroken _ _
        · exact unbroken_nil
      have text := unbroken_authorizationValue setting.unbroken.extension
        (unbroken_parseChallenge (unbroken.header found) read) plain nonce made
      split
      · exact authorized_of_name (by decide) (by decide) text
      · exact authorized_of_name (by decide) (by decide) text

theorem Credentials.authorized {agent : UserAgent Host} {came : Message → Prop}
    {method uri line : Bytes} (credentials : Credentials came agent method uri line)
    (setting : Setting target agent.config agent.random) (plain : Unbroken uri)
    (unbroken : ∀ challenge, came challenge → challenge.Unbroken) : Authorized line := by
  rcases credentials with rfl | ⟨asked, challenge, config, random, received, answered⟩
  · exact authorized_nil
  · rw [← config, ← random] at setting
    exact authorized_of_challenge setting (unbroken challenge received) plain answered

theorem Transaction.tidy_context {transaction : Transaction} {context : InviteContext}
    (tidy : transaction.packet.Tidy random target)
    (handler : transaction.onFinal = .invite context) :
    context.Tidy random target ∧ context.branch ≠ [] := by
  have fits := transaction.fits
  rw [handler] at fits
  obtain ⟨-, branch, uri, sender, callId, -, -, named⟩ := fits
  obtain ⟨content, drew⟩ := tidy
  exact ⟨⟨uri ▸ content.uri, sender ▸ content.sender, callId ▸ content.callId, branch ▸ drew⟩,
    named⟩

end Texts

theorem Response.tidy {request : Message} {status : Int} {toTag body : Bytes}
    (unbroken : request.Unbroken) (line : Unbroken toTag) (short : body.length < 2 ^ 64)
    (low : 100 ≤ status) (high : status ≤ 699) :
    Response.Tidy { request, status, toTag, body } :=
  ⟨⟨low, high⟩, unbroken, line, short⟩

theorem Response.Tidy.withBody {response : Response} (tidy : response.Tidy) {body : Bytes}
    (short : body.length < 2 ^ 64) : Response.Tidy { response with body } :=
  { tidy with body := short }

/-! ### Calls -/

namespace Call.Tidy

variable {target : Bytes → Prop} {config : UserAgentConfig} {random : Random} {call : Call}

theorem inviteResponse (tidy : call.Tidy random target) {status : Int} (low : 100 ≤ status)
    (high : status ≤ 699) : (inviteResponse call status).Tidy := by
  refine ⟨⟨low, high⟩, ?_, tidy.localTag, Nat.two_pow_pos 64⟩
  show (call.invite.getD {}).Unbroken
  cases kept : call.invite with
  | none => exact Message.unbroken_empty
  | some request => exact tidy.invite request kept

theorem outgoing {agent : UserAgent Host} (setting : Setting target agent.config agent.random)
    {number : Bytes} (valid : validTarget number = true) (id : Int32) (port : UInt16) :
    (agent.outgoingCall id number port).Tidy agent.random target where
  sipCallId := unbroken_append.mpr ⟨setting.hexadecimal.unbroken _ _, by decide⟩
  localTag := setting.hexadecimal.unbroken _ _
  localHeader := by
    refine unbroken_append.mpr ⟨?_, setting.hexadecimal.unbroken _ _⟩
    exact unbroken_append.mpr ⟨unbroken_append.mpr ⟨by decide, setting.unbroken.aor⟩, by decide⟩
  remoteHeader := by
    have plain := setting.plain _ (setting.dialled number valid)
    exact unbroken_append.mpr ⟨unbroken_append.mpr ⟨by decide, plain⟩, by decide⟩
  remoteTarget := fun missing => absurd rfl missing
  inviteUri := fun _ => setting.dialled number valid
  inviteBranch := fun missing => absurd rfl missing
  ack := nofun
  invite := nofun
  lastResponse := nofun
  localSdp := Nat.two_pow_pos 64
  srtpKey := Nat.zero_le _

theorem composed {agent : UserAgent Host} (setting : Setting target agent.config agent.random)
    (composes : agent.Composes call)
    (described : agent.config.Describes none call.srtpKey call.localSdp) :
    call.Tidy agent.random target ∧ target call.inviteUri := by
  obtain ⟨opened, number, srtpKey, localSdp, port, sdpVersion, config, random, valid, short,
    equal⟩ := composes
  have key : call.srtpKey = srtpKey := by rw [equal]
  have sdp : call.localSdp.length < 2 ^ 64 := setting.unbroken.describes (key ▸ short) described
  have same : call.localSdp = localSdp := by rw [equal]
  rw [same] at sdp
  rw [← config, ← random] at setting
  have dialled : (opened.outgoingCall call.id number port).Tidy agent.random target :=
    random ▸ outgoing setting valid call.id port
  rw [equal]
  exact ⟨{ dialled with localSdp := sdp, srtpKey := short }, dialled.inviteUri (Or.inl rfl)⟩

theorem incoming (setting : Setting target config random) {request : Message}
    (unbroken : request.Unbroken) {tag : Bytes} (drawn : Unbroken tag) (id : Int32)
    (offer : AudioDescription) :
    (incomingCall config id request tag offer).Tidy random target where
  sipCallId := unbroken.headerOr _
  localTag := drawn
  localHeader := unbroken_tagged (unbroken.headerOr _) drawn
  remoteHeader := unbroken.headerOr _
  remoteTarget := by
    show ((request.header "contact").map uriOf).getD (uriOf (request.headerOr "from")) ≠ [] →
      target (((request.header "contact").map uriOf).getD (uriOf (request.headerOr "from")))
    cases found : request.header "contact" with
    | none => exact setting.located _ (unbroken.headerOr _)
    | some value => exact setting.located value (unbroken.header found)
  inviteUri := fun known => known.elim nofun fun missing => absurd rfl missing
  inviteBranch := fun missing => absurd rfl missing
  ack := nofun
  invite := fun _ same => Option.some.inj same ▸ unbroken
  lastResponse := fun _ same =>
    Option.some.inj same ▸ Response.tidy unbroken drawn (Nat.two_pow_pos 64) (by decide) (by decide)
  localSdp := Nat.two_pow_pos 64
  srtpKey := Nat.zero_le _

theorem reoffered (tidy : call.Tidy random target) (setting : Setting target config random)
    {remote : RemoteMedia} {body localSdp : Bytes}
    (offered : ∃ offer key, parseAudio body = some offer ∧ config.acceptable offer = some key ∧
      remote = config.remoteMediaFor call offer key ∧
        (localSdp = call.localSdp ∨ config.Describes (some offer) call.srtpKey localSdp)) :
    localSdp.length < 2 ^ 64 := by
  obtain ⟨offer, key, -, -, -, rfl | described⟩ := offered
  · exact tidy.localSdp
  · exact setting.unbroken.describes tidy.srtpKey described

theorem invited (tidy : call.Tidy random target) (aimed : target call.inviteUri) {branch : Bytes}
    (drew : random.Drew branch) : (call.invited branch).Tidy random target :=
  { tidy with
    inviteUri := fun _ => aimed
    inviteBranch := fun _ => drew }

theorem confirm (tidy : call.Tidy random target) {ack : Ack}
    (clean : ack.packet.Tidy random target) : (call.confirm ack).Tidy random target :=
  { tidy with
    ack := fun _ same => Option.some.inj same ▸ clean
    remoteHeader := clean.1.recipient
    remoteTarget := fun _ => clean.1.uri
    inviteUri := fun known => tidy.inviteUri (Or.inr (known.resolve_left nofun)) }

/-! ### Requests inside a call -/

theorem cancelRequest (tidy : call.Tidy random target) (aimed : target call.inviteUri)
    (plain : Unbroken call.inviteUri) : (cancelRequest call).Tidy target :=
  ⟨mem_of_elem_eq_true rfl, aimed, tidy.localHeader,
    unbroken_append.mpr ⟨unbroken_append.mpr ⟨by decide, plain⟩, by decide⟩, tidy.sipCallId,
    nofun, Nat.two_pow_pos 64⟩

theorem byeRequest (tidy : call.Tidy random target) (aimed : target call.remoteTarget) :
    (byeRequest call).Tidy target :=
  ⟨mem_of_elem_eq_true rfl, aimed, tidy.localHeader, tidy.remoteHeader, tidy.sipCallId, nofun,
    Nat.two_pow_pos 64⟩

theorem inviteRequest (tidy : call.Tidy random target) (aimed : target call.inviteUri)
    (plain : Unbroken call.inviteUri) {line : Bytes} (authorized : Authorized line) :
    (inviteRequest call line).Tidy target :=
  ⟨mem_of_elem_eq_true rfl, aimed, tidy.localHeader,
    unbroken_append.mpr ⟨unbroken_append.mpr ⟨by decide, plain⟩, by decide⟩, tidy.sipCallId,
    forall_mem_cons.mpr ⟨⟨mem_of_elem_eq_true rfl, by decide⟩, authorized⟩, tidy.localSdp⟩

end Call.Tidy

theorem InviteContext.Tidy.ackRequest {random : Random} {target : Bytes → Prop}
    {context : InviteContext} (clean : context.Tidy random target) {response : Message}
    (unbroken : response.Unbroken)
    (aimed : ∀ value, response.header "contact" = some value → target (uriOf value)) :
    (ackRequest context response).Tidy target := by
  refine ⟨mem_of_elem_eq_true rfl, ?_, clean.sender, unbroken.headerOr _, clean.sipCallId,
    nofun, Nat.two_pow_pos 64⟩
  show target (((response.header "contact").map uriOf).getD context.uri)
  cases found : response.header "contact" with
  | none => exact clean.uri
  | some value => exact aimed value found

/-! ### Packets -/

section Steps

variable {target : Bytes → Prop} {before after : UserAgent Host} {cause : Cause}
  {added : List Action}

/-- An action that sends nothing but what is tidy. -/
def Action.Tidy (random : Random) (target : Bytes → Prop) : Action → Prop
  | .sendSip packet => packet.Tidy random target
  | _ => True

theorem Call.tidy_farewell (random : Random) (target : Bytes → Prop) (call : Call)
    (reason : EndReason) (status : Int) :
    ∀ action ∈ call.farewell reason status, action.Tidy random target := by
  unfold farewell
  cases call.mediaOpen <;> simp [Action.Tidy]

/-- A message that brings a step about is unbroken, and there is a target for each ACK of a 2xx and
each BYE that the step sends. -/
structure UserAgent.Directed (target : Bytes → Prop) (agent : UserAgent Host) (cause : Cause) :
    Prop where
  received : ∀ message, cause = .hears message → message.Unbroken
  accepted : ∀ response transaction context, agent.Heard cause response transaction →
    transaction.onFinal = .invite context → isSuccess response.status = true →
      ∀ value, response.header "contact" = some value → target (uriOf value)
  dismissed : ∀ call, agent.current = some call → cause.Dismisses call → target call.remoteTarget

theorem Fresh.drew {branch : Bytes} (fresh : Fresh before after branch) :
    before.random.Drew branch :=
  let ⟨draw, _, equal⟩ := fresh
  ⟨draw, equal⟩

theorem Transaction.Begun.tidy {transaction : Transaction} {request : Request} {branch : Bytes}
    {onFinal : FinalHandler} {random : Random} (begun : transaction.Begun request branch onFinal)
    (clean : request.Tidy target) (drew : random.Drew branch) :
    transaction.packet.Tidy random target := by
  rw [begun.packet]
  exact ⟨clean, drew⟩

namespace UserAgent.Tidy

theorem registerRequest (tidy : before.Tidy target)
    (expires : UInt32) {line : Bytes} (authorized : Authorized line) :
    (before.registerRequest expires line).Tidy target := by
  have aor := unbroken_append.mpr ⟨(by decide : Unbroken (ascii "<")), tidy.setting.unbroken.aor⟩
  exact ⟨mem_of_elem_eq_true rfl, tidy.setting.registrar,
    unbroken_append.mpr ⟨unbroken_append.mpr ⟨aor, by decide⟩, tidy.fromTag⟩,
    unbroken_append.mpr ⟨aor, by decide⟩, tidy.callId,
    forall_mem_cons.mpr ⟨⟨mem_of_elem_eq_true rfl, unbroken_decimal _⟩,
      forall_mem_cons.mpr ⟨⟨mem_of_elem_eq_true rfl, by decide⟩, authorized⟩⟩,
    Nat.two_pow_pos 64⟩

theorem tagged (tidy : before.Tidy target) {tag : Bytes} (tags : before.Tags tag) :
    Unbroken tag := by
  rcases tags with rfl | rfl | ⟨call, present, rfl⟩
  · exact unbroken_nil
  · exact tidy.setting.hexadecimal.unbroken _ _
  · exact (tidy.current call present).localTag

theorem reply (tidy : before.Tidy target) (directed : before.Directed target cause)
    {response : Response} (reply : Reply before cause response) : response.Tidy := by
  have empty (bodyless : response.body = []) : response.body.length < 2 ^ 64 := by
    rw [bodyless]
    exact Nat.two_pow_pos 64
  cases reply with
  | other heard _ bodyless _ tags known =>
    exact ⟨known, directed.received _ heard, tidy.tagged tags, empty bodyless⟩
  | refuses asks _ status bodyless tags =>
    refine ⟨?_, directed.received _ asks.message, tidy.tagged tags, empty bodyless⟩
    omega
  | declines asks _ _ status bodyless tags =>
    refine ⟨?_, directed.received _ asks.message, tidy.tagged tags, empty bodyless⟩
    omega
  | again present _ _ kept => exact (tidy.current _ present).lastResponse _ kept

/-- The INVITE that a call belongs to has a target. -/
theorem invited (tidy : before.Tidy target) {transaction : Transaction} {context : InviteContext}
    {call : Call} (pending : transaction ∈ before.transactions.values)
    (invites : transaction.onFinal = .invite context) (own : before.callOf context = some call) :
    call.Tidy before.random target ∧ target call.inviteUri := by
  obtain ⟨present, -, branch⟩ := callOf_eq_some own
  have clean := tidy.current call present
  have named := (transaction.tidy_context (tidy.pending _ pending) invites).2
  exact ⟨clean, clean.inviteUri (Or.inr (branch ▸ named))⟩

theorem ackRequest (tidy : before.Tidy target) (directed : before.Directed target cause)
    {response : Message} {transaction : Transaction} {context : InviteContext}
    (heard : before.Heard cause response transaction)
    (accepts : isSuccess response.status = true)
    (invites : transaction.onFinal = .invite context) :
    (UserAgent.ackRequest context response).Tidy target :=
  (transaction.tidy_context (tidy.pending _ heard.pending) invites).1.ackRequest
    (directed.received _ heard.message)
    (directed.accepted response transaction context heard invites accepts)

theorem ack (tidy : before.Tidy target) (directed : before.Directed target cause)
    {response : Message} {transaction : Transaction} {context : InviteContext} {ack : Ack}
    (heard : before.Heard cause response transaction)
    (accepts : isSuccess response.status = true)
    (invites : transaction.onFinal = .invite context)
    (acknowledges : ack.request = UserAgent.ackRequest context response)
    (numbered : ack.branch = before.freshBranch) : ack.packet.Tidy before.random target :=
  ⟨acknowledges ▸ tidy.ackRequest directed heard accepts invites, before.draws, numbered⟩

theorem cancel (tidy : before.Tidy target) {call : Call} {cancel : Transaction} {branch : Bytes}
    (present : before.current = some call) (calling : call.state = .calling)
    (named : call.inviteBranch ≠ [] → branch = call.inviteBranch)
    (begun : cancel.Begun (cancelRequest call) branch .ignore)
    (drawn : call.inviteBranch = [] → Fresh before after branch) :
    cancel.packet.Tidy before.random target := by
  have clean := tidy.current call present
  have aimed := clean.inviteUri (Or.inl calling)
  refine begun.tidy (clean.cancelRequest aimed (tidy.setting.plain _ aimed)) ?_
  by_cases empty : call.inviteBranch = []
  · exact (drawn empty).drew
  · exact named empty ▸ clean.inviteBranch empty

theorem ackForFailure (tidy : before.Tidy target) (directed : before.Directed target cause)
    {transaction : Transaction} {context : InviteContext}
    (pending : transaction ∈ before.transactions.values)
    (invites : transaction.onFinal = .invite context) {sent : List Action}
    (acknowledged : sent = [] ∨ ∃ recipient, sent = [.sendSip (.ackForFailure context recipient)])
    (names : cause.Names context sent) :
    ∀ action ∈ sent, action.Tidy before.random target := by
  rcases acknowledged with rfl | ⟨recipient, rfl⟩
  · exact forall_mem_nil _
  · obtain ⟨response, heard, rfl⟩ := names recipient (mem_singleton_self _)
    exact forall_mem_singleton.mpr
      ⟨(transaction.tidy_context (tidy.pending _ pending) invites).1,
        (directed.received _ heard).headerOr _⟩

end UserAgent.Tidy

theorem Cause.Dismisses.settled {call : Call} (dismissed : cause.Dismisses call) :
    call.Settled := by
  cases cause with
  | hangsUp id => exact dismissed.2
  | closes => exact dismissed
  | ticks now => exact Or.inl dismissed.1
  | _ => exact dismissed.elim

/-! ### Steps -/

variable [UserAgentHost Host]

theorem RegisterSide.tidy (side : RegisterSide before after) (tidy : before.Tidy target) :
    after.Tidy target := by
  induction side with
  | refl => exact tidy
  | drawn _ hypothesis | close _ hypothesis => exact { hypothesis with }
  | setRegistration _ _ callId fromTag hypothesis =>
    exact { hypothesis with
      callId := callId.symm ▸ hypothesis.callId
      fromTag := fromTag.symm ▸ hypothesis.fromTag }
  | report _ _ hypothesis =>
    refine { hypothesis with sent := fun packet member => hypothesis.sent packet ?_ }
    exact (mem_append.mp member).resolve_right fun new => nomatch mem_singleton.mp new
  | erase _ _ _ hypothesis =>
    exact { hypothesis with
      pending := fun other member => hypothesis.pending other (mem_of_mem_filter member) }
  | @proceed _ old _ pending _ now hypothesis =>
    refine { hypothesis with pending := fun other member => ?_ }
    rcases mem_values_put.mp member with rfl | ⟨-, kept⟩
    · rw [old.proceed_packet now]
      exact hypothesis.pending old pending
    · exact hypothesis.pending other kept
  | @sendRegister after _ expires line now credentials hypothesis =>
    have setting := hypothesis.setting
    have authorized := credentials.authorized setting (setting.plain _ setting.registrar)
      fun _ ⟨_, parsed⟩ => unbroken_parseMessage parsed
    have clean : (after.registerTransaction expires line now).packet.Tidy after.random target :=
      ⟨hypothesis.registerRequest expires authorized, after.draws, rfl⟩
    rw [sendRegister_eq]
    refine { hypothesis with pending := fun other member => ?_, sent := fun packet member => ?_ }
    · rcases mem_values_put.mp member with rfl | ⟨-, kept⟩
      · exact clean
      · exact hypothesis.pending other kept
    · rcases mem_append.mp member with old | new
      · exact hypothesis.sent packet old
      · exact Action.sendSip.inj (mem_singleton.mp new) ▸ clean

/-- Everything that a turn sends is tidy. -/
theorem CallTurn.tidySent (turn : CallTurn cause added before after) (tidy : before.Tidy target)
    (directed : before.Directed target cause) :
    ∀ action ∈ added, action.Tidy before.random target := by
  have ends (call : Call) (reason : EndReason) (status : Int) :=
    call.tidy_farewell before.random target reason status
  have invite {call : Call} {code : Int} (present : before.current = some call)
      (low : 100 ≤ code) (high : code ≤ 699) :
      (Action.sendSip (.response (inviteResponse call code))).Tidy before.random target :=
    (tidy.current call present).inviteResponse low high
  have accept {request : Message} {toTag : Bytes} (heard : cause = .hears request)
      (line : Unbroken toTag) {status : Int} (low : 100 ≤ status) (high : status ≤ 699) :
      (Action.sendSip (.response { request, status, toTag })).Tidy before.random target :=
    Response.tidy (directed.received _ heard) line (Nat.two_pow_pos 64) low high
  cases turn with
  | rests | proceeds | concludes | givesUp => exact forall_mem_nil _
  | replies reply => exact forall_mem_singleton.mpr (tidy.reply directed reply)
  | acknowledges present kept =>
    exact forall_mem_singleton.mpr ((tidy.current _ present).ack _ kept)
  | progresses _ _ _ _ _ _ told =>
    rcases told with rfl | ⟨event, -, -, rfl⟩
    · exact forall_mem_nil _
    · exact forall_mem_singleton.mpr trivial
  | cancelsLate _ _ present _ calling _ _ named begun _ drawn =>
    exact forall_mem_singleton.mpr (tidy.cancel present calling named begun drawn)
  | cancels present calling _ _ named begun _ drawn =>
    exact forall_mem_singleton.mpr (tidy.cancel present calling named begun drawn)
  | forgets pending invites _ sent _ names =>
    exact tidy.ackForFailure directed pending invites sent names
  | parts heard accepts invites _ acknowledges begun _ drawn numbered =>
    have request := tidy.ackRequest directed heard accepts invites
    have late : (lateByeRequest _ _).Tidy target :=
      ⟨mem_of_elem_eq_true rfl, request.uri, request.sender, request.recipient, request.callId,
        nofun, Nat.two_pow_pos 64⟩
    exact forall_mem_cons.mpr
      ⟨tidy.ack directed heard accepts invites acknowledges numbered,
        forall_mem_singleton.mpr (begun.tidy late drawn.drew)⟩
  | fails pending invites _ acknowledged _ names =>
    exact forall_mem_append.mpr
      ⟨tidy.ackForFailure directed pending invites acknowledged names, ends _ _ _⟩
  | retries pending invites own _ _ drawn begun _ names credentials =>
    obtain ⟨clean, aimed⟩ := tidy.invited pending invites own
    obtain ⟨response, heard, rfl⟩ := names
    have plain := tidy.setting.plain _ aimed
    have authorized := credentials.authorized tidy.setting plain directed.received
    have request := clean.inviteRequest aimed plain authorized
    exact forall_mem_cons.mpr
      ⟨⟨(Transaction.tidy_context (tidy.pending _ pending) invites).1,
        (directed.received _ heard).headerOr _⟩,
      forall_mem_singleton.mpr (begun.tidy request ⟨_, rfl⟩)⟩
  | connects heard accepts invites _ _ acknowledges _ _ _ numbered =>
    exact forall_mem_cons.mpr ⟨tidy.ack directed heard accepts invites acknowledges numbered,
      forall_mem_cons.mpr ⟨trivial, forall_mem_singleton.mpr trivial⟩⟩
  | drops heard accepts invites own acknowledges refused begun _ drawn _ numbered =>
    have ack := tidy.ack directed heard accepts invites acknowledges numbered
    have clean := (tidy.invited heard.pending invites own).1.confirm ack
    refine forall_mem_append.mpr ⟨forall_mem_cons.mpr ⟨ack, ?_⟩, forall_mem_cons.mpr
      ⟨begun.tidy (clean.byeRequest ack.1.uri) drawn.drew, ends _ _ _⟩⟩
    rcases refused with rfl | ⟨remote, rfl⟩
    · exact forall_mem_nil _
    · exact forall_mem_singleton.mpr trivial
  | dialFails => exact forall_mem_cons.mpr ⟨trivial, forall_mem_cons.mpr ⟨trivial, ends _ _ _⟩⟩
  | dials _ _ _ _ begun _ _ described composes =>
    obtain ⟨clean, aimed⟩ := Call.Tidy.composed tidy.setting composes described
    have request := clean.inviteRequest aimed (tidy.setting.plain _ aimed) authorized_nil
    exact forall_mem_cons.mpr ⟨trivial, forall_mem_cons.mpr ⟨trivial,
      forall_mem_singleton.mpr (begun.tidy request ⟨_, rfl⟩)⟩⟩
  | rings asks _ _ _ _ _ tagged =>
    exact forall_mem_cons.mpr ⟨accept asks.message (tidy.tagged (Or.inr (Or.inl tagged)))
      (by decide) (by decide), forall_mem_cons.mpr ⟨trivial, forall_mem_singleton.mpr trivial⟩⟩
  | reinvites asks same _ _ offered outcome =>
    refine forall_mem_cons.mpr ⟨trivial, forall_mem_singleton.mpr ?_⟩
    have unbroken := directed.received _ asks.message
    have clean := tidy.current _ (sameCall_eq_some same).1
    rcases outcome with ⟨-, accepts⟩ | ⟨-, status, bodyless, untagged⟩
    · rw [accepts]
      exact Response.tidy unbroken unbroken_nil (clean.reoffered tidy.setting offered)
        (by decide) (by decide)
    · refine ⟨?_, unbroken, untagged ▸ unbroken_nil, bodyless ▸ Nat.two_pow_pos 64⟩
      omega
  | confirms => exact forall_mem_singleton.mpr trivial
  | hearsBye asks =>
    exact forall_mem_cons.mpr
      ⟨accept asks.message unbroken_nil (by decide) (by decide), ends _ _ _⟩
  | hearsCancel asks same =>
    obtain ⟨present, -⟩ := sameCall_eq_some same
    exact forall_mem_cons.mpr
      ⟨accept asks.message (tidy.current _ present).localTag (by decide) (by decide),
        forall_mem_cons.mpr ⟨invite present (by decide) (by decide), ends _ _ _⟩⟩
  | rejects present _ refusal =>
    exact forall_mem_cons.mpr ⟨invite present (by omega) refusal.2, ends _ _ _⟩
  | answerFails present _ _ refused =>
    refine forall_mem_append.mpr ⟨forall_mem_cons.mpr ⟨trivial, ?_⟩,
      forall_mem_cons.mpr ⟨invite present (by decide) (by decide), ends _ _ _⟩⟩
    rcases refused with rfl | ⟨-, remote, rfl⟩
    · exact forall_mem_nil _
    · exact forall_mem_singleton.mpr trivial
  | accepts present _ _ _ _ _ _ described keyed =>
    have clean := tidy.current _ present
    have short := tidy.setting.unbroken.describes (keyed clean.srtpKey) described
    exact forall_mem_cons.mpr ⟨trivial, forall_mem_cons.mpr ⟨trivial, forall_mem_singleton.mpr
      ((clean.inviteResponse (by decide) (by decide)).withBody short)⟩⟩
  | resends present _ sent =>
    rcases sent with rfl | ⟨response, kept, rfl⟩
    · exact forall_mem_nil _
    · exact forall_mem_singleton.mpr ((tidy.current _ present).lastResponse _ kept)
  | abandons => exact ends _ _ _
  | saysBye present _ begun _ drawn dismissed =>
    have request := (tidy.current _ present).byeRequest (directed.dismissed _ present dismissed)
    exact forall_mem_cons.mpr ⟨begun.tidy request drawn.drew, ends _ _ _⟩

/-- The call that a turn leaves is tidy. -/
theorem CallTurn.tidyCall (turn : CallTurn cause added before after) (tidy : before.Tidy target)
    (directed : before.Directed target cause) :
    ∀ call, after.current = some call → call.Tidy before.random target := by
  have leaves {call : Call} (current : after.current = some call)
      (clean : call.Tidy before.random target) :
      ∀ left, after.current = some left → left.Tidy before.random target :=
    fun _ present => Option.some.inj (current.symm.trans present) ▸ clean
  have gone (current : after.current = none) :
      ∀ left, after.current = some left → left.Tidy before.random target :=
    fun _ present => nomatch current.symm.trans present
  cases turn with
  | rests does | replies _ does | acknowledges _ _ does | proceeds _ _ _ does
  | concludes _ _ does | forgets _ _ _ _ does | parts _ _ _ _ _ _ does =>
    exact does.current ▸ tidy.current
  | fails _ _ _ _ does | drops _ _ _ _ _ _ _ does | dialFails _ _ _ does | hearsBye _ _ does
  | hearsCancel _ _ _ _ does | rejects _ _ _ does | answerFails _ _ _ _ does
  | abandons _ _ _ does | saysBye _ _ _ does => exact gone does.current
  | progresses _ _ present _ _ _ _ does | cancelsLate _ _ present _ _ _ _ _ _ does
  | resends present _ _ does | givesUp present _ _ _ does | cancels present _ _ _ _ _ does =>
    exact leaves does.current { tidy.current _ present with }
  | retries pending invites own _ _ _ _ does =>
    obtain ⟨clean, aimed⟩ := tidy.invited pending invites own
    refine leaves does.current (Call.Tidy.invited ?_ ?_ ⟨_, rfl⟩)
    · exact { clean with }
    · exact aimed
  | connects heard accepts invites own _ acknowledges _ does _ numbered =>
    have ack := tidy.ack directed heard accepts invites acknowledges numbered
    exact leaves does.current ((tidy.invited heard.pending invites own).1.confirm ack)
  | dials _ _ _ _ _ does _ described composes =>
    obtain ⟨clean, aimed⟩ := Call.Tidy.composed tidy.setting composes described
    exact leaves does.current (clean.invited aimed ⟨_, rfl⟩)
  | rings asks _ _ does _ _ tagged =>
    exact leaves does.current (.incoming tidy.setting (directed.received _ asks.message)
      (tidy.tagged (Or.inr (Or.inl tagged))) _ _)
  | reinvites _ same _ does offered =>
    have clean := tidy.current _ (sameCall_eq_some same).1
    exact leaves does.current { clean with localSdp := clean.reoffered tidy.setting offered }
  | confirms present _ _ _ does =>
    have clean := tidy.current _ present
    exact leaves does.current
      { clean with
        inviteUri := fun known => clean.inviteUri (Or.inr (known.resolve_left nofun)) }
  | accepts present _ _ _ does _ _ described keyed =>
    have clean := tidy.current _ present
    have short := tidy.setting.unbroken.describes (keyed clean.srtpKey) described
    have response := (clean.inviteResponse (by decide : (100 : Int) ≤ 200) (by decide)).withBody
      short
    exact leaves does.current
      { clean with
        localSdp := short
        srtpKey := keyed clean.srtpKey
        lastResponse := fun _ same => Option.some.inj same ▸ response
        inviteUri := fun known => clean.inviteUri (Or.inr (known.resolve_left nofun)) }

theorem CallTurn.tidy (turn : CallTurn cause added before after) (tidy : before.Tidy target)
    (directed : before.Directed target cause) : after.Tidy target := by
  have clean := turn.tidySent tidy directed
  have calls := turn.tidyCall tidy directed
  have held := turn.reworks.held
  obtain ⟨_, _, does⟩ := turn.exists_does
  have setting := tidy.setting
  rw [← does.config, ← does.random] at setting
  refine ⟨setting, does.registration ▸ tidy.callId, does.registration ▸ tidy.fromTag,
    does.random ▸ calls, fun transaction member => ?_, fun packet member => ?_⟩
  · rw [does.random]
    rcases held transaction member with ⟨old, pending, same⟩ | sent
    · exact same ▸ tidy.pending old pending
    · exact clean _ sent
  · rw [does.log] at member
    rw [does.random]
    exact (mem_append.mp member).elim (tidy.sent packet) (clean _)

/-- A call that an operation without a message dismisses was there before, with its target. -/
theorem CallTurn.dismisses (turn : CallTurn cause added before after)
    (unheard : ∀ message, cause ≠ .hears message) {call : Call}
    (present : after.current = some call) (dismissed : cause.Dismisses call) :
    ∃ old, before.current = some old ∧ cause.Dismisses old ∧
      old.remoteTarget = call.remoteTarget := by
  have stays (current : after.current = before.current) :
      ∃ old, before.current = some old ∧ cause.Dismisses old ∧
        old.remoteTarget = call.remoteTarget :=
    ⟨call, current ▸ present, dismissed, rfl⟩
  have calling {next : Call} (current : after.current = some next)
      (early : next.state = .calling) : False := by
    cases present.symm.trans current
    rcases dismissed.settled with other | other <;> exact nomatch early.symm.trans other
  cases turn with
  | rests does | replies _ does | acknowledges _ _ does | proceeds _ _ _ does
  | concludes _ _ does | forgets _ _ _ _ does | parts _ _ _ _ _ _ does =>
    exact stays does.current
  | fails _ _ _ _ does | drops _ _ _ _ _ _ _ does | dialFails _ _ _ does | hearsBye _ _ does
  | hearsCancel _ _ _ _ does | rejects _ _ _ does | answerFails _ _ _ _ does
  | abandons _ _ _ does | saysBye _ _ _ does => exact nomatch does.current.symm.trans present
  | progresses heard | cancelsLate heard | connects heard => exact absurd heard.message (unheard _)
  | retries _ _ _ _ _ _ _ _ names =>
    obtain ⟨response, heard, -⟩ := names
    exact absurd heard (unheard _)
  | rings asks | reinvites asks => exact absurd asks.message (unheard _)
  | confirms _ _ _ _ _ heard =>
    obtain ⟨request, heard⟩ := heard
    exact absurd heard (unheard _)
  | dials _ _ _ _ _ _ dials =>
    cases dials
    exact dismissed.elim
  | accepts _ _ _ _ _ answers =>
    cases answers
    exact dismissed.elim
  | givesUp _ early _ _ does | cancels _ early _ _ _ _ does =>
    exact (calling does.current early).elim
  | resends there _ _ does ticks =>
    cases ticks
    cases present.symm.trans does.current
    exact ⟨_, there, dismissed, rfl⟩

theorem CallStep.tidy (step : CallStep cause added before after) (tidy : before.Tidy target)
    (directed : before.Directed target cause) : after.Tidy target := by
  cases step with
  | registers side => exact side.tidy tidy
  | calls turn => exact turn.tidy tidy directed

theorem CallStep.directed (step : CallStep cause added before after)
    (directed : before.Directed target cause) (unheard : ∀ message, cause ≠ .hears message) :
    after.Directed target cause where
  received message heard := absurd heard (unheard message)
  accepted _ _ _ heard := absurd heard.message (unheard _)
  dismissed call present dismissed := by
    cases step with
    | registers side =>
      rw [side.frame.current] at present
      exact directed.dismissed call present dismissed
    | calls turn =>
      obtain ⟨old, kept, before, same⟩ := turn.dismisses unheard present dismissed
      exact same ▸ directed.dismissed old kept before

end Steps

/-! ### Operations -/

/-- Every target that an operation sends an ACK of a 2xx or a BYE to is one that counts. -/
def UserAgent.Targeted (target : Bytes → Prop) (agent : UserAgent Host) : Op → Prop
  | .message datagram _ =>
    ∀ response transaction context, agent.Answers datagram response transaction →
      transaction.onFinal = .invite context → isSuccess response.status = true →
        ∀ value, response.header "contact" = some value → target (uriOf value)
  | .hangup id _ =>
    ∀ call, agent.current = some call → call.id = id → call.Settled → target call.remoteTarget
  | .shutdown _ =>
    ∀ call, agent.current = some call → call.Settled → target call.remoteTarget
  | .timer now =>
    ∀ call, agent.current = some call → call.state = .answering → call.ackDeadline ≤ now →
      target call.remoteTarget
  | _ => True

section Runs

variable [UserAgentHost Host] {target : Bytes → Prop} {agent : UserAgent Host}

theorem UserAgent.Tidy.retransmit (tidy : agent.Tidy target) (now : Time) :
    (agent.retransmit now).Tidy target := by
  obtain ⟨host, equal⟩ := agent.retransmit_eq now
  rw [equal]
  refine { tidy with pending := fun transaction member => ?_, sent := fun packet member => ?_ }
  · obtain ⟨old, before, rfl⟩ := mem_map.mp member
    rw [old.backOff_packet now]
    exact tidy.pending old before
  · rcases mem_append.mp member with old | new
    · exact tidy.sent packet old
    · obtain ⟨transaction, due, same⟩ := mem_map.mp new
      exact Action.sendSip.inj same ▸ tidy.pending transaction (mem_of_mem_filter due)

omit [UserAgentHost Host] in
/-- What an operation other than a message dismisses has a target. -/
theorem UserAgent.Targeted.dismissed {op : Op} (targeted : agent.Targeted target op) :
    ∀ call, agent.current = some call → op.cause.Dismisses call → target call.remoteTarget := by
  cases op with
  | hangup id now => exact fun call present ⟨same, settled⟩ => targeted call present same settled
  | shutdown now => exact targeted
  | timer now =>
    exact fun call present ⟨answering, late⟩ => targeted call present answering late
  | message datagram now =>
    intro call present dismissed
    cases parsed : parseMessage datagram with
    | none =>
      rw [Op.cause_of_unparsed parsed] at dismissed
      exact dismissed.elim
    | some heard =>
      rw [Op.cause_of_parsed parsed] at dismissed
      exact dismissed.elim
  | _ => exact fun _ _ dismissed => dismissed.elim

theorem UserAgent.Tidy.step (tidy : agent.Tidy target) {op : Op}
    (targeted : agent.Targeted target op) : (agent.step op).Tidy target := by
  rcases CallSteps.step agent op with ⟨datagram, now, heard, added, rfl, parsed, step⟩ |
    ⟨unheard, added, steps⟩
  · refine step.tidy tidy ⟨?_, ?_, ?_⟩
    · rintro message ⟨⟩
      exact unbroken_parseMessage parsed
    · rintro response transaction context hears
      cases hears.message
      exact targeted heard transaction context (hears.answers parsed)
    · exact fun _ _ dismissed => dismissed.elim
  · -- Each step leaves the agent tidy, and the next one with targets.
    have ready : (agent.resending op).Directed target op.cause :=
      ⟨fun message heard => absurd heard (unheard message),
        fun _ _ _ heard => absurd heard.message (unheard _),
        (agent.resending_current op).symm ▸ targeted.dismissed⟩
    exact (steps.keep (fun later => later.Tidy target ∧ later.Directed target op.cause)
      (fun step both => ⟨step.tidy both.1 both.2, step.directed both.2 unheard⟩)
      ⟨resending_keeps (UserAgent.Tidy target) (fun _ now tidy => tidy.retransmit now) tidy op,
        ready⟩).1

omit [UserAgentHost Host] in
theorem UserAgent.Tidy.create {config : UserAgentConfig} {random : Random}
    (setting : Setting target config random) (host : Host) :
    (create config host random).Tidy target where
  setting := setting
  callId := unbroken_append.mpr ⟨setting.hexadecimal.unbroken _ _, by decide⟩
  fromTag := setting.hexadecimal.unbroken _ _
  current _ missing := nomatch missing
  pending _ missing := absurd missing not_mem_nil
  sent _ missing := absurd missing not_mem_nil

omit [UserAgentHost Host] in
theorem UserAgent.Targeted.counts {op : Op} (targeted : agent.Targeted (· ≠ []) op)
    (tidy : agent.Tidy target) : agent.Targeted target op := by
  cases op with
  | message datagram now =>
    intro response transaction context answers handler success value found
    refine tidy.setting.located value ((unbroken_parseMessage answers.1).header found) ?_
    exact targeted response transaction context answers handler success value found
  | hangup id now =>
    exact fun call kept same settled =>
      (tidy.current call kept).remoteTarget (targeted call kept same settled)
  | shutdown now =>
    exact fun call kept settled =>
      (tidy.current call kept).remoteTarget (targeted call kept settled)
  | timer now =>
    exact fun call kept answering lapsed =>
      (tidy.current call kept).remoteTarget (targeted call kept answering lapsed)
  | _ => trivial

end Runs

/-! ### Targets that a request line can hold -/

section Targets

variable {config : UserAgentConfig} {random : Random}

/-- A text without blanks at all. -/
def Solid (text : Bytes) : Prop := ∀ byte ∈ text, isTrailing byte = false

instance (text : Bytes) : Decidable (Solid text) := inferInstanceAs (Decidable (∀ _ ∈ _, _))

theorem solid_append {first second : Bytes} :
    Solid (first ++ second) ↔ Solid first ∧ Solid second :=
  forall_mem_append

theorem solid_sipHost {address : Bytes} (solid : Solid address) : Solid (sipHost address) := by
  unfold sipHost
  split
  · exact solid_append.mpr ⟨solid_append.mpr ⟨by decide +kernel, solid⟩, by decide +kernel⟩
  · exact solid

theorem plain_of_validTarget {number : Bytes} (valid : validTarget number = true) :
    Unbroken number ∧ Solid number := by
  unfold validTarget findFirstOf at valid
  simp only [Bool.and_eq_true, Option.isNone_iff_eq_none, List.findIdx?_eq_none_iff] at valid
  have other (byte : UInt8) (member : byte ∈ number) :
      byte ∉ ascii " \t\r\n<>\"@;" := by
    simpa using valid.2 byte member
  refine ⟨fun member => other 10 member (by decide), fun byte member => ?_⟩
  have outside := other byte member
  unfold isTrailing
  simp only [Bool.or_eq_false_iff, beq_eq_false_iff_ne]
  refine ⟨⟨?_, ?_⟩, ?_⟩ <;> rintro rfl <;> exact outside (by decide)

theorem aimed_of_solid {rest : Bytes} (unbroken : Unbroken rest) (solid : Solid rest) :
    Aimed (ascii "sip:" ++ rest) :=
  ⟨append_ne_nil_of_left_ne_nil (by decide) _, unbroken_append.mpr ⟨by decide, unbroken⟩,
    trim_eq_self (solid_append.mpr ⟨by decide +kernel, solid⟩)⟩

theorem setting_aimed (unbroken : config.Unbroken) (solid : Solid config.domain)
    (hexadecimal : random.Hexadecimal) : Setting Aimed config random where
  unbroken := unbroken
  hexadecimal := hexadecimal
  plain _ aimed := aimed.2.1
  registrar := aimed_of_solid (unbroken_sipHost unbroken.domain) (solid_sipHost solid)
  dialled number valid := by
    obtain ⟨line, text⟩ := plain_of_validTarget valid
    rw [append_assoc, append_assoc]
    refine aimed_of_solid ?_ ?_
    · exact unbroken_append.mpr
        ⟨line, unbroken_append.mpr ⟨by decide, unbroken_sipHost unbroken.domain⟩⟩
    · exact solid_append.mpr ⟨text, solid_append.mpr ⟨by decide +kernel, solid_sipHost solid⟩⟩
  located value line given := ⟨given, line.part (uriOf_subset value), trim_uriOf value⟩

end Targets

/-! ### What goes out -/

section Sent

variable [UserAgentHost Host]

/-- What every agent keeps to whose operations have targets. -/
structure Mannered (config : UserAgentConfig) (agent : UserAgent Host) : Prop where
  fixed : agent.config = config
  sound : agent.Sound
  tidy : agent.Tidy Aimed

theorem Mannered.step {config : UserAgentConfig} {agent : UserAgent Host} {op : Op}
    (mannered : Mannered config agent) (targeted : agent.Targeted (· ≠ []) op) :
    Mannered config (agent.step op) where
  fixed := (agent.step_drives op).1.trans mannered.fixed
  sound := mannered.sound.step op
  tidy := mannered.tidy.step (targeted.counts mannered.tidy)

/-- In every run whose operations have targets for the ACKs of 2xxs and the BYEs they send, what is
sent is read as it was meant, and its body is empty or a description that the agent built. -/
theorem sent_wellFormed {config : UserAgentConfig} {random : Random} (unbroken : config.Unbroken)
    (solid : Solid config.domain) (hexadecimal : random.Hexadecimal) (host : Host)
    {ops : List Op} (targeted : StepsMeet UserAgent.step (UserAgent.Targeted (· ≠ []))
      (UserAgent.create config host random) ops) {packet : Packet}
    (sent : .sendSip packet ∈ (run UserAgent.step (UserAgent.create config host random) ops).log) :
    packet.WellFormed config ∧ config.Fills packet.body := by
  have mannered : Mannered config
      (run UserAgent.step (UserAgent.create config host random) ops) :=
    run_keeps (fun _ _ mannered targeted => mannered.step targeted)
      ⟨rfl, UserAgent.Sound.create config host random,
        UserAgent.Tidy.create (setting_aimed unbroken solid hexadecimal) host⟩ targeted
  have setting := mannered.tidy.setting
  rw [mannered.fixed] at setting
  exact ⟨(mannered.tidy.sent packet sent).wellFormed (fun _ aimed => aimed) setting.unbroken
    setting.hexadecimal, mannered.fixed ▸ mannered.sound.sent packet sent⟩

end Sent

theorem targeted_of_contact {agent : UserAgent Host} {datagram : Bytes} {now : Time}
    (given : ((parseMessage datagram).bind (·.header "contact")).all
      (fun value => uriOf value ≠ []) = true) :
    agent.Targeted (· ≠ []) (.message datagram now) := by
  intro response transaction context answers handler success value found
  rw [answers.1, Option.bind_some, found] at given
  exact of_decide_eq_true given

theorem Random.counting_hexadecimal : Random.counting.Hexadecimal := by
  have digits : ∀ number : Fin 256,
      isDigit (UInt8.ofFin number) = true → UInt8.ofFin number ∈ kHex := by decide +kernel
  exact fun _ _ byte member => digits byte.toFin (isDigit_of_mem_decimal member)

/-- The BYE that hangs up the dialled call. -/
def dialledBye : Packet :=
  .request
    { method := ascii "BYE"
      uri := ascii "sip:101@10.0.0.1"
      sender := ascii "<sip:100@10.0.0.1>;tag=3"
      recipient := ascii "<sip:101@10.0.0.1>;tag=s"
      callId := ascii "2@ketphone"
      cseq := 2 } (ascii "z9hG4bK7")

/-- The BYE of a call that was accepted with a Contact is read as it was meant. -/
theorem hungUp_wellFormed :
    dialledBye.WellFormed UserAgent.ideal.config ∧
      UserAgent.ideal.config.Fills dialledBye.body := by
  have present (call : Call) (kept : (((UserAgent.create UserAgent.ideal.config ({} : IdealHost)
      Random.counting).step (.call 1 (ascii "101") 0)).step
        (.message dialledAccepted 1)).current = some call) : call.remoteTarget ≠ [] := by
    have given : (((UserAgent.create UserAgent.ideal.config ({} : IdealHost)
        Random.counting).step (.call 1 (ascii "101") 0)).step
          (.message dialledAccepted 1)).current.all
            (fun call => call.remoteTarget ≠ []) = true := by
      decide +kernel
    rw [kept] at given
    exact of_decide_eq_true given
  have targeted : StepsMeet UserAgent.step (UserAgent.Targeted (· ≠ []))
      (UserAgent.create UserAgent.ideal.config ({} : IdealHost) Random.counting)
      [.call 1 (ascii "101") 0, .message dialledAccepted 1, .hangup 1 2] := by
    have contact : ((parseMessage dialledAccepted).bind (·.header "contact")).all
        (fun value => uriOf value ≠ []) = true := by decide +kernel
    exact ⟨trivial, targeted_of_contact contact, fun call kept _ _ => present call kept, trivial⟩
  exact sent_wellFormed ⟨by decide, by decide, by decide, by decide, by decide, by decide⟩
    (by decide +kernel) Random.counting_hexadecimal _ targeted (by decide +kernel)

/-- The acceptance of the dialled call with an empty Contact. -/
def emptyContact : Bytes :=
  dialledAnswered "200 OK" "Contact: <>\r\n"
    "v=0\r\nc=IN IP4 10.0.0.1\r\nm=audio 10000 RTP/AVP 8\r\n"

/-- The ACK of that acceptance. -/
def emptyAck : Packet :=
  .request
    { method := ascii "ACK"
      uri := []
      sender := ascii "<sip:100@10.0.0.1>;tag=3"
      recipient := ascii "<sip:101@10.0.0.1>;tag=s"
      callId := ascii "2@ketphone"
      cseq := 1 } (ascii "z9hG4bK6")

/-- An acceptance with an empty Contact is acknowledged with what is no SIP message. -/
theorem emptyAck_not_wellFormed :
    .sendSip emptyAck ∈ (run UserAgent.step UserAgent.ideal
        [.call 1 (ascii "101") 0, .message emptyContact 1]).log ∧
      parseMessage (emptyAck.bytes UserAgent.ideal.config) = none := by
  decide +kernel

end KetPhone.Core
