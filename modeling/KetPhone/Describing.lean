/-
This file shows that a session description which this side builds is read back as
what it was built from: the address, the port, the two payload types, the profile
and the key.

The built text is a list of lines that each end in CRLF and hold no line feed, so the
scanner gets these lines back. Those before the m= line set the session's address,
the m= line gives the port, the profile and the payload types, and of the lines after
it only the a=crypto line adds anything.
-/

import KetPhone.Sdp

namespace KetPhone.Sip

open List

/-! ### Lines -/

/-- The address family that a built description names. -/
def familyOf (address : Bytes) : Bytes :=
  if (findByte 58 address).isNone then ascii "IP4" else ascii "IP6"

/-- The lines before the m= line. -/
def sessionLines (address : Bytes) (sessionId version : UInt64) : List Bytes :=
  [ascii "v=0",
    ascii "o=- " ++ decimal sessionId.toNat ++ ascii " " ++ decimal version.toNat ++
      ascii " IN " ++ familyOf address ++ ascii " " ++ address,
    ascii "s=KetPhone",
    ascii "c=IN " ++ familyOf address ++ ascii " " ++ address,
    ascii "t=0 0"]

/-- What stands after `m=audio `. -/
def mediaValue (port : UInt16) (savp : Bool) : Bytes :=
  decimal port.toNat ++ ascii " " ++
    (if savp then ascii "RTP/SAVP" else ascii "RTP/AVP") ++ ascii " 8 101"

/-- What stands after `a=crypto:`. -/
def cryptoValue (own : LocalCrypto) : Bytes :=
  decimal own.tag.toNat ++ ascii " " ++ kSdesSuite ++ ascii " inline:" ++ base64Encode own.key

/-- The lines after the m= line. -/
def audioLines (crypto : Option LocalCrypto) : List Bytes :=
  [ascii "a=rtpmap:8 PCMA/8000",
    ascii "a=rtpmap:101 telephone-event/8000",
    ascii "a=fmtp:101 0-16",
    ascii "a=ptime:20",
    ascii "a=sendrecv"] ++ crypto.toList.map (ascii "a=crypto:" ++ cryptoValue ·)

/-- All lines of a built description. -/
def sdpLines (address : Bytes) (port : UInt16) (sessionId version : UInt64)
    (crypto : Option LocalCrypto) : List Bytes :=
  sessionLines address sessionId version ++
    (ascii "m=audio " ++ mediaValue port (crypto.any LocalCrypto.savp)) :: audioLines crypto

theorem splitLines_flatten_crlf (lines : List Bytes) (whole : ∀ line ∈ lines, 10 ∉ line) :
    splitLines (lines.map (· ++ ascii "\r\n")).flatten = lines := by
  induction lines with
  | nil => rfl
  | cons line lines hypothesis =>
    rw [map_cons, flatten_cons, splitLines_cons (whole line mem_cons_self),
      hypothesis fun other member => whole other (mem_cons_of_mem _ member)]

theorem buildAudioSdp_eq (address : Bytes) (port : UInt16) (sessionId version : UInt64)
    (crypto : Option LocalCrypto) :
    buildAudioSdp address port sessionId version crypto =
      ((sdpLines address port sessionId version crypto).map (· ++ ascii "\r\n")).flatten := by
  have event : decimal kPayloadTelephoneEvent.toNat = ascii "101" := by decide
  have pcma : decimal kPayloadPcma.toNat = ascii "8" := by decide
  unfold buildAudioSdp sdpLines sessionLines mediaValue audioLines cryptoValue familyOf
  rw [event, pcma]
  cases crypto with
  | none =>
    simp only [map_append, map_cons, map_nil, flatten_append, flatten_cons,
      flatten_nil, append_assoc, append_nil, Option.toList_none]
    rfl
  | some own =>
    simp only [map_append, map_cons, map_nil, flatten_append, flatten_cons,
      flatten_nil, append_assoc, append_nil, Option.toList_some]
    rfl

/-! ### Values -/

theorem not_mem_decimal {byte : UInt8} (other : isDigit byte = false) (number : Nat) :
    byte ∉ decimal number := by
  intro member
  rw [isDigit_of_mem_decimal member] at other
  cases other

theorem holdsAny_eq_false {set text : Bytes} (apart : ∀ byte ∈ text, byte ∉ set) :
    holdsAny set text = false := by
  refine any_eq_false.mpr fun byte member held => apart byte member ?_
  exact contains_iff_mem.mp held

theorem parseInteger_decimal {width number : Nat} (fits : number < 2 ^ width) :
    parseInteger width (decimal number) = some number := by
  unfold parseInteger
  rw [trim_decimal, fromChars_decimal fits]

theorem familyOf_cases (address : Bytes) :
    familyOf address = ascii "IP4" ∨ familyOf address = ascii "IP6" := by
  unfold familyOf
  split
  · exact Or.inl rfl
  · exact Or.inr rfl

/-- The address of a c= line of this side. -/
theorem connectionAddress_built {address : Bytes} (nonempty : address ≠ [])
    (plain : ∀ byte ∈ address, byte ∉ ascii " \t\r\n/[]") :
    connectionAddress (ascii "IN " ++ familyOf address ++ ascii " " ++ address) = some address := by
  have trimmed : trim address = address := by
    refine trim_eq_self fun byte member => (Bool.not_eq_true _).mp fun trailing => ?_
    refine plain byte member ?_
    unfold isTrailing at trailing
    simp only [Bool.or_eq_true, beq_iff_eq] at trailing
    rcases trailing with (rfl | rfl) | rfl <;> decide
  have whole : findByte 47 address = none :=
    findByte_eq_none.mpr fun member => plain 47 member (by decide)
  have clean : holdsAny (ascii " \t\r\n[]") address = false := by
    refine holdsAny_eq_false fun byte member held => plain byte member ?_
    exact (show ascii " \t\r\n[]" ⊆ ascii " \t\r\n/[]" by decide) held
  have content : (ascii "IN " ++ familyOf address ++ ascii " " ++ address).drop 7 = address := by
    rcases familyOf_cases address with same | same <;> rw [same] <;> rfl
  unfold connectionAddress
  rw [if_neg, content, trimmed]
  · dsimp only
    rw [whole]
    refine if_neg ?_
    rintro (empty | held)
    · exact nonempty empty
    · exact Bool.false_ne_true (clean.symm.trans held)
  · rcases familyOf_cases address with same | same <;> rw [same]
    · exact fun refused => absurd refused.1 nofun
    · exact fun refused => absurd refused.2 nofun

theorem parseAudioMedia_built (port : UInt16) (savp : Bool) :
    parseAudioMedia (mediaValue port savp) =
      some { port, savp, payloadTypes := [8, 101] } := by
  have absent : 32 ∉ decimal port.toNat := not_mem_decimal (by decide) _
  have shape : mediaValue port savp =
      decimal port.toNat ++ 32 ::
        ((if savp then ascii "RTP/SAVP" else ascii "RTP/AVP") ++ ascii " 8 101") := by
    unfold mediaValue
    rw [append_assoc, append_assoc]
    rfl
  unfold parseAudioMedia
  rw [shape, findByte_append absent]
  dsimp only
  rw [take_left, parseInteger_decimal port.toNat_lt]
  dsimp only
  rw [drop_length_add_append]
  cases savp <;> exact congrArg some (by rw [UInt16.ofNat_toNat]; rfl)

/-- The key of an a=crypto line of this side. -/
theorem parseInlineKey_built {key : Bytes} (length : key.length = kSdesKeyLength) :
    parseInlineKey (ascii "inline:" ++ base64Encode key) = some key := by
  have apart : ∀ byte ∈ ascii "inline:" ++ base64Encode key, byte ∉ ascii " \t;" := by
    intro byte member
    rcases mem_append.mp member with name | encoded
    · exact (show ∀ byte ∈ ascii "inline:", byte ∉ ascii " \t;" by decide +kernel) byte name
    · exact (show ∀ byte ∈ kAlphabet ++ [61], byte ∉ ascii " \t;" by decide +kernel) byte
        (mem_base64Encode encoded)
  have whole : findByte 124 (base64Encode key) = none :=
    findByte_eq_none.mpr fun member => absurd (mem_base64Encode member) (by decide)
  have content : (ascii "inline:" ++ base64Encode key).drop 7 = base64Encode key := rfl
  unfold parseInlineKey
  rw [holdsAny_eq_false apart, if_neg]
  · rw [content]
    dsimp only
    rw [whole, Option.map_none, Option.any_none, if_neg Bool.false_ne_true]
    simp only [upTo, base64Decode_encode]
    exact if_neg (not_not.mpr length)
  · rintro (held | other)
    · cases held
    · exact absurd other Bool.false_ne_true

theorem parseCrypto_built {own : LocalCrypto} (small : own.tag.toNat ≤ 999999999)
    (length : own.key.length = kSdesKeyLength) :
    parseCrypto (cryptoValue own) = some { tag := own.tag, key := own.key } := by
  have absent : 32 ∉ decimal own.tag.toNat := not_mem_decimal (by decide) _
  have shape : cryptoValue own =
      decimal own.tag.toNat ++ 32 ::
        (kSdesSuite ++ 32 :: (ascii "inline:" ++ base64Encode own.key)) := by
    unfold cryptoValue
    simp only [append_assoc]
    rfl
  have solid : ∀ byte ∈ ascii "inline:" ++ base64Encode own.key, isTrailing byte = false := by
    intro byte member
    rcases mem_append.mp member with name | encoded
    · exact (show ∀ byte ∈ ascii "inline:", isTrailing byte = false by decide +kernel) byte name
    · exact (show ∀ byte ∈ kAlphabet ++ [61], isTrailing byte = false by decide +kernel) byte
        (mem_base64Encode encoded)
  have trimmed : trim (kSdesSuite ++ 32 :: (ascii "inline:" ++ base64Encode own.key)) =
      kSdesSuite ++ 32 :: (ascii "inline:" ++ base64Encode own.key) := by
    rw [append_cons]
    exact trim_between [32] (by decide) (by decide +kernel)
      (append_ne_nil_of_left_ne_nil (by decide) _)
      solid
  unfold parseCrypto
  rw [shape, findByte_append absent]
  dsimp only
  rw [take_left, parseInteger_decimal own.tag.toNat_lt]
  dsimp only
  rw [if_neg (Nat.not_lt.mpr small), drop_length_add_append, drop_one, tail_cons,
    trimmed, findByte_append (by decide)]
  dsimp only
  rw [take_left, if_neg (not_not.mpr rfl), drop_length_add_append, drop_one,
    tail_cons, trim_eq_self solid, parseInlineKey_built length, UInt32.ofNat_toNat]
  rfl

/-! ### The whole description -/

section Built

variable {address : Bytes} (port : UInt16) (sessionId version : UInt64)
  (crypto : Option LocalCrypto)

/-- No line of a built description holds a line feed. -/
theorem sdpLines_unbroken (plain : ∀ byte ∈ address, byte ∉ ascii " \t\r\n/[]") :
    ∀ line ∈ sdpLines address port sessionId version crypto, 10 ∉ line := by
  have number : ∀ value, (10 : UInt8) ∉ decimal value := not_mem_decimal (by decide)
  have own : (10 : UInt8) ∉ address := fun member => plain 10 member (by decide)
  have encoded : ∀ key, (10 : UInt8) ∉ base64Encode key := fun key member =>
    absurd (mem_base64Encode member) (by decide)
  have family : (10 : UInt8) ∉ familyOf address := by
    rcases familyOf_cases address with same | same <;> rw [same] <;> decide
  have join : ∀ {first second : Bytes}, 10 ∉ first → 10 ∉ second → 10 ∉ first ++ second :=
    fun first second member => (mem_append.mp member).elim first second
  have before : ∀ line ∈ sessionLines address sessionId version, 10 ∉ line := by
    have origin : (10 : UInt8) ∉ ascii "o=- " ++ decimal sessionId.toNat ++ ascii " " ++
        decimal version.toNat ++ ascii " IN " ++ familyOf address ++ ascii " " ++ address :=
      join (join (join (join (join (join (join (by decide) (number _)) (by decide)) (number _))
        (by decide)) family) (by decide)) own
    have connection : (10 : UInt8) ∉ ascii "c=IN " ++ familyOf address ++ ascii " " ++ address :=
      join (join (join (by decide) family) (by decide)) own
    unfold sessionLines
    simp only [forall_mem_cons]
    exact ⟨by decide, origin, by decide, connection, by decide,
      fun _ member => absurd member not_mem_nil⟩
  have media :
      (10 : UInt8) ∉ ascii "m=audio " ++ mediaValue port (crypto.any LocalCrypto.savp) := by
    refine join (by decide) (join (join (join (number _) (by decide)) ?_) (by decide))
    split <;> decide
  have after : ∀ line ∈ audioLines crypto, 10 ∉ line := by
    intro line member
    rcases mem_append.mp member with fixed | keyed
    · exact (show ∀ line ∈ [ascii "a=rtpmap:8 PCMA/8000", ascii "a=rtpmap:101 telephone-event/8000",
        ascii "a=fmtp:101 0-16", ascii "a=ptime:20", ascii "a=sendrecv"], 10 ∉ line by decide)
        line fixed
    · obtain ⟨key, -, rfl⟩ := mem_map.mp keyed
      exact join (by decide) (join (join (join (join (number _) (by decide)) (by decide))
        (by decide)) (encoded _))
  intro line member
  rcases mem_append.mp member with early | late
  · exact before line early
  · rcases mem_cons.mp late with rfl | later
    · exact media
    · exact after line later

theorem lastConnection_sessionLines (nonempty : address ≠ [])
    (plain : ∀ byte ∈ address, byte ∉ ascii " \t\r\n/[]") :
    lastConnection (sessionLines address sessionId version) = some (some address) := by
  have own : connectionOf (ascii "c=IN " ++ familyOf address ++ ascii " " ++ address) =
      some (some address) :=
    congrArg some (connectionAddress_built nonempty plain)
  unfold lastConnection sessionLines
  rw [filterMap_cons_none rfl, filterMap_cons_none rfl, filterMap_cons_none rfl,
    filterMap_cons_some own]
  rfl

theorem audioLines_attributes {line : Bytes} (member : line ∈ audioLines crypto) :
    ∃ value, line = 97 :: 61 :: value := by
  rcases mem_append.mp member with fixed | keyed
  · have shape : ∀ line ∈ [ascii "a=rtpmap:8 PCMA/8000", ascii "a=rtpmap:101 telephone-event/8000",
        ascii "a=fmtp:101 0-16", ascii "a=ptime:20", ascii "a=sendrecv"],
          line = 97 :: 61 :: line.drop 2 := by
      decide
    exact ⟨_, shape line fixed⟩
  · obtain ⟨own, -, rfl⟩ := mem_map.mp keyed
    exact ⟨_, rfl⟩

/-- What the lines after the m= line add. -/
theorem foldl_audioLines (audio : AudioDescription)
    (fits : ∀ own ∈ crypto, own.tag.toNat ≤ 999999999 ∧ own.key.length = 30) :
    (audioLines crypto).foldl attributeLine audio =
      { audio with crypto := audio.crypto ++
          crypto.toList.map fun own => { tag := own.tag, key := own.key } } := by
  have fixed : [ascii "a=rtpmap:8 PCMA/8000", ascii "a=rtpmap:101 telephone-event/8000",
      ascii "a=fmtp:101 0-16", ascii "a=ptime:20", ascii "a=sendrecv"].foldl attributeLine audio =
        audio := rfl
  unfold audioLines
  rw [foldl_append, fixed]
  cases crypto with
  | none => exact congrArg (fun keys => { audio with crypto := keys }) (append_nil _).symm
  | some own =>
    obtain ⟨small, length⟩ := fits own rfl
    have parts : lineParts (ascii "a=crypto:" ++ cryptoValue own) =
        some (97, ascii "crypto:" ++ cryptoValue own) := rfl
    have value : (ascii "crypto:" ++ cryptoValue own).drop 7 = cryptoValue own := rfl
    have starts : (ascii "crypto:").isPrefixOf (ascii "crypto:" ++ cryptoValue own) = true :=
      isPrefixOf_iff_prefix.mpr (prefix_append _ _)
    have active : ¬(ascii "crypto:" ++ cryptoValue own = ascii "inactive" ∨
        ascii "crypto:" ++ cryptoValue own = ascii "recvonly") := by
      rintro (same | same) <;> exact absurd (congrArg List.head? same) nofun
    show attributeLine audio (ascii "a=crypto:" ++ cryptoValue own) = _
    unfold attributeLine addAttribute
    rw [parts]
    dsimp only
    rw [if_pos rfl, if_neg active, if_pos starts, value, parseCrypto_built small length]
    rfl

/-- What this side describes is read back as it was described. -/
theorem parseAudio_buildAudioSdp (nonempty : address ≠ [])
    (plain : ∀ byte ∈ address, byte ∉ ascii " \t\r\n/[]") (used : port ≠ 0)
    (fits : ∀ own ∈ crypto, own.tag.toNat ≤ 999999999 ∧ own.key.length = 30) :
    parseAudio (buildAudioSdp address port sessionId version crypto) =
      some {
        address, port
        payloadTypes := [8, 101]
        remoteSends := true
        savp := crypto.any LocalCrypto.savp
        crypto := crypto.toList.map fun own => { tag := own.tag, key := own.key } } := by
  unfold parseAudio
  rw [buildAudioSdp_eq, splitLines_flatten_crlf _
    (sdpLines_unbroken port sessionId version crypto plain)]
  have other : ∀ line ∈ sessionLines address sessionId version, isAudioLine line = false := by
    unfold sessionLines
    simp only [forall_mem_cons]
    exact ⟨rfl, rfl, rfl, rfl, rfl, fun _ member => absurd member not_mem_nil⟩
  have plainAfter : ∀ line ∈ audioLines crypto, isMediaLine line = false := by
    intro line member
    obtain ⟨value, rfl⟩ := audioLines_attributes crypto member
    rfl
  have unconnected : lastConnection (audioLines crypto) = none := by
    unfold lastConnection
    rw [filterMap_eq_nil_iff.mpr fun line member => ?_]
    · rfl
    · obtain ⟨value, rfl⟩ := audioLines_attributes crypto member
      rfl
  have scanned := @scanLines_audio _ _ [] (mediaValue port (crypto.any LocalCrypto.savp)) other
    plainAfter nofun
  rw [append_nil] at scanned
  unfold sdpLines
  rw [scanned, parseAudioMedia_built, Option.bind_some, finish_inside,
    foldl_audioLines crypto _ fits,
    lastConnection_sessionLines sessionId version nonempty plain, unconnected]
  exact if_neg used

end Built

theorem securedOffer_readBack :
    parseAudio (buildAudioSdp (ascii "2001:db8::1") 40000 7 8
        (some { savp := true, tag := 3, key := List.replicate 30 255 })) =
      some {
        address := ascii "2001:db8::1"
        port := 40000
        payloadTypes := [8, 101]
        savp := true
        crypto := [{ tag := 3, key := List.replicate 30 255 }] } :=
  parseAudio_buildAudioSdp 40000 7 8 (some { savp := true, tag := 3, key := List.replicate 30 255 })
    (by decide) (by decide +kernel) (by decide) (by decide)

end KetPhone.Sip
