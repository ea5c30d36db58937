/-
This file models `sip/sdp.cpp`: the one-pass parser of the audio stream of a
session description with its SDES keys, and the builder of this side's own
descriptions. It compares the parser with the reading of a description as a
session part and a list of media sections.

The parser keeps one flag for "inside the audio section" and takes every c= line
before that section for the session's. A c= line of an earlier section of another
kind therefore replaces the session's address, and is used whenever the audio
section brings no c= line of its own. Nothing else of another section is read.
-/

import KetPhone.Text
import KetPhone.Base64

namespace KetPhone.Sip

open List

def kPayloadPcma : UInt8 := 8

def kPayloadTelephoneEvent : UInt8 := 101

def kSdesSuite : Bytes := ascii "AES_CM_128_HMAC_SHA1_80"

def kSdesKeyLength : Nat := 30

structure SdesCrypto where
  tag : UInt32
  key : Bytes
  deriving DecidableEq, Repr

structure AudioDescription where
  address : Bytes := []
  port : UInt16 := 0
  payloadTypes : List UInt8 := []
  remoteSends : Bool := true
  savp : Bool := false
  crypto : List SdesCrypto := []
  deriving DecidableEq, Repr

def AudioDescription.offersPcma (media : AudioDescription) : Bool :=
  media.payloadTypes.contains kPayloadPcma

/-- `find_first_of(set) != npos`. -/
def holdsAny (set text : Bytes) : Bool := text.any (set.contains ·)

def connectionAddress (value : Bytes) : Option Bytes :=
  if !(ascii "IN IP4 ").isPrefixOf value ∧ !(ascii "IN IP6 ").isPrefixOf value then none
  else
    let whole := trim (value.drop 7)
    let address := upTo (findByte 47 whole) whole
    if address = [] ∨ holdsAny (ascii " \t\r\n[]") address then none else some address

/-- The key parameters of a crypto line: `inline:KEY`, with nothing but a lifetime after it. -/
def parseInlineKey (parameters : Bytes) : Option Bytes :=
  if holdsAny (ascii " \t;") parameters ∨ !(ascii "inline:").isPrefixOf parameters then none
  else
    let rest := parameters.drop 7
    let keyEnd := findByte 124 rest
    let lifetime := keyEnd.map fun place => rest.drop (place + 1)
    if lifetime.any fun text => text.isEmpty || holdsAny (ascii "|:") text then none
    else
      match base64Decode (upTo keyEnd rest) with
      | none => none
      | some key => if key.length ≠ kSdesKeyLength then none else some key

def parseCrypto (value : Bytes) : Option SdesCrypto :=
  match findByte 32 value with
  | none => none
  | some tagEnd =>
    match parseInteger 32 (value.take tagEnd) with
    | none => none
    | some tag =>
      if tag > 999999999 then none
      else
        let rest := trim (value.drop (tagEnd + 1))
        match findByte 32 rest with
        | none => none
        | some suiteEnd =>
          if rest.take suiteEnd ≠ kSdesSuite then none
          else
            (parseInlineKey (trim (rest.drop (suiteEnd + 1)))).map fun key =>
              { tag := UInt32.ofNat tag, key }

/-! ### The parser -/

/-- The variables of the loop in `parse_audio`. -/
structure AudioScan where
  sessionAddress : Option Bytes := none
  audio : Option AudioDescription := none
  mediaAddress : Option Bytes := none
  hasMediaConnection : Bool := false
  inAudio : Bool := false
  seenAudio : Bool := false
  deriving DecidableEq, Repr

/-- How one line leaves the loop: on to the next, out of it, or out of the function. -/
inductive ScanStep where
  | proceed (scan : AudioScan)
  | stop
  | refuse
  deriving DecidableEq, Repr

/-- What follows `m=audio `: the port, the profile and the payload types. -/
def parseAudioMedia (value : Bytes) : Option AudioDescription :=
  match findByte 32 value with
  | none => none
  | some portEnd =>
    match parseInteger 16 (value.take portEnd) with
    | none => none
    | some port =>
      let rest := value.drop (portEnd + 1)
      let protoEnd := findByte 32 rest
      let profile := upTo protoEnd rest
      if profile ≠ ascii "RTP/AVP" ∧ profile ≠ ascii "RTP/SAVP" then none
      else
        let formats := match protoEnd with
          | none => []
          | some place => rest.drop (place + 1)
        some {
          port := UInt16.ofNat port
          savp := profile == ascii "RTP/SAVP"
          payloadTypes := (pieces 32 formats).filterMap fun format =>
            (parseInteger 8 format).map UInt8.ofNat }

/-- What an a= line of the audio section adds. -/
def addAttribute (audio : AudioDescription) (value : Bytes) : AudioDescription :=
  let audio := if value = ascii "inactive" ∨ value = ascii "recvonly" then
      { audio with remoteSends := false }
    else audio
  if (ascii "crypto:").isPrefixOf value then
    match parseCrypto (value.drop 7) with
    | none => audio
    | some crypto => { audio with crypto := audio.crypto ++ [crypto] }
  else audio

/-- The type character and the value of a line `x=value`. -/
def lineParts : Bytes → Option (UInt8 × Bytes)
  | kind :: 61 :: value => some (kind, value)
  | _ => none

/-- The m= branch. -/
def scanMedia (scan : AudioScan) (value : Bytes) : ScanStep :=
  if scan.seenAudio then .stop
  else if !(ascii "audio ").isPrefixOf value then .proceed { scan with inAudio := false }
  else
    match parseAudioMedia (value.drop 6) with
    | none => .refuse
    | some audio => .proceed { scan with inAudio := true, seenAudio := true, audio := some audio }

/-- The c= branch. -/
def scanConnection (scan : AudioScan) (value : Bytes) : AudioScan :=
  if scan.inAudio then
    { scan with hasMediaConnection := true, mediaAddress := connectionAddress value }
  else if !scan.seenAudio then { scan with sessionAddress := connectionAddress value }
  else scan

/-- The a= branch. -/
def scanAttribute (scan : AudioScan) (value : Bytes) : AudioScan :=
  if scan.inAudio then { scan with audio := scan.audio.map fun audio => addAttribute audio value }
  else scan

/-- One line of the description. -/
def scanLine (scan : AudioScan) (line : Bytes) : ScanStep :=
  match lineParts line with
  | none => .proceed scan
  | some (kind, value) =>
    if kind = 109 then scanMedia scan value
    else if kind = 99 then .proceed (scanConnection scan value)
    else if kind = 97 then .proceed (scanAttribute scan value)
    else .proceed scan

/-- The loop over the lines. -/
def scanLines (scan : AudioScan) : List Bytes → Option AudioScan
  | [] => some scan
  | line :: rest =>
    match scanLine scan line with
    | .proceed next => scanLines next rest
    | .stop => some scan
    | .refuse => none

/-- What is made of the variables after the loop. -/
def AudioScan.finish (scan : AudioScan) : Option AudioDescription :=
  match scan.audio with
  | none => none
  | some audio =>
    if audio.port = 0 then none
    else if scan.hasMediaConnection ∧ scan.mediaAddress.isNone then none
    else
      match scan.mediaAddress.or scan.sessionAddress with
      | none => none
      | some address => some { audio with address }

def parseAudio (sdp : Bytes) : Option AudioDescription :=
  (scanLines {} (splitLines sdp)).bind AudioScan.finish

/-! ### The builder -/

structure LocalCrypto where
  savp : Bool := true
  tag : UInt32 := 1
  key : Bytes
  deriving DecidableEq, Repr

def buildAudioSdp (address : Bytes) (port : UInt16) (sessionId version : UInt64)
    (crypto : Option LocalCrypto) : Bytes :=
  let family := if (findByte 58 address).isNone then ascii "IP4" else ascii "IP6"
  let payloads := decimal kPayloadPcma.toNat ++ ascii " " ++ decimal kPayloadTelephoneEvent.toNat
  let event := decimal kPayloadTelephoneEvent.toNat
  let profile := if crypto.any LocalCrypto.savp then ascii "RTP/SAVP" else ascii "RTP/AVP"
  let keys := match crypto with
    | none => []
    | some own => ascii "a=crypto:" ++ decimal own.tag.toNat ++ ascii " " ++ kSdesSuite ++
        ascii " inline:" ++ base64Encode own.key ++ ascii "\r\n"
  ascii "v=0\r\n" ++
    ascii "o=- " ++ decimal sessionId.toNat ++ ascii " " ++ decimal version.toNat ++
      ascii " IN " ++ family ++ ascii " " ++ address ++ ascii "\r\n" ++
    ascii "s=KetPhone\r\n" ++
    ascii "c=IN " ++ family ++ ascii " " ++ address ++ ascii "\r\n" ++
    ascii "t=0 0\r\n" ++
    ascii "m=audio " ++ decimal port.toNat ++ ascii " " ++ profile ++ ascii " " ++ payloads ++
      ascii "\r\n" ++
    ascii "a=rtpmap:8 PCMA/8000\r\n" ++
    ascii "a=rtpmap:" ++ event ++ ascii " telephone-event/8000\r\n" ++
    ascii "a=fmtp:" ++ event ++ ascii " 0-16\r\n" ++
    ascii "a=ptime:20\r\n" ++
    ascii "a=sendrecv\r\n" ++ keys

theorem buildAudioSdp_ne_nil (address : Bytes) (port : UInt16) (sessionId version : UInt64)
    (crypto : Option LocalCrypto) : buildAudioSdp address port sessionId version crypto ≠ [] := by
  unfold buildAudioSdp
  dsimp only
  repeat refine append_ne_nil_of_left_ne_nil ?_ _
  decide

/-! ### A description as a session part and media sections -/

/-- A line that starts a media section. -/
def isMediaLine (line : Bytes) : Bool := (ascii "m=").isPrefixOf line

/-- A line that starts an audio section. -/
def isAudioLine (line : Bytes) : Bool := (ascii "m=audio ").isPrefixOf line

/-- Whether the m= line of a section is an audio one. -/
def isAudioSection (part : Bytes) : Bool := ((splitLines part).head?.map isAudioLine).getD false

/-- The address a c= line gives; nothing for any other line. -/
def connectionOf (line : Bytes) : Option (Option Bytes) :=
  match lineParts line with
  | none => none
  | some (kind, value) => if kind = 99 then some (connectionAddress value) else none

/-- What the last c= line of a part gives, if it has one. -/
def lastConnection (lines : List Bytes) : Option (Option Bytes) :=
  (lines.filterMap connectionOf).getLast?

/-- A session part followed by media sections: no m= line before the first section, each
section one m= line and what follows up to the next, and every part but the last a number of
whole lines. -/
structure Sections where
  session : Bytes
  media : List Bytes
  sessionPlain : ∀ line ∈ splitLines session, isMediaLine line = false
  mediaStarts : ∀ part ∈ media, ∃ line rest, splitLines part = line :: rest ∧
    isMediaLine line = true ∧ ∀ other ∈ rest, isMediaLine other = false
  wholeLines : ∀ part ∈ (session :: media).dropLast, Complete part

namespace Sections

/-- The text of the whole description. -/
def text (description : Sections) : Bytes := description.session ++ description.media.flatten

/-- The first audio section. -/
def audio (description : Sections) : Option Bytes := description.media.find? isAudioSection

/-- The session part followed by the first audio section only. -/
def audioText (description : Sections) : Bytes :=
  description.session ++ description.audio.getD []

/-- The lines before the first audio section. -/
def linesBefore (description : Sections) : List Bytes :=
  splitLines description.session ++
    (description.media.takeWhile fun part => !isAudioSection part).flatMap splitLines

/-- The address of the session part. -/
def sessionAddress (description : Sections) : Option Bytes :=
  (lastConnection (splitLines description.session)).join

/-- Other media sections do not influence the audio stream: the whole text is read as the
session part and the first audio section alone, and the address is that section's own or else
the session part's. -/
def Independent (description : Sections) : Prop :=
  parseAudio description.text = parseAudio description.audioText ∧
    ∀ found, parseAudio description.text = some found →
      ∃ part, description.audio = some part ∧
        some found.address =
          (lastConnection (splitLines part)).getD description.sessionAddress

/-- The audio section has a port, under a profile the parser takes. -/
def Usable (part : Bytes) : Prop :=
  ∃ line rest found, splitLines part = line :: rest ∧
    parseAudioMedia (line.drop 8) = some found ∧ found.port ≠ 0

/-- When the audio section needs the session's address, the c= lines of the sections before it
leave that address as it is. -/
def AddressKept (description : Sections) : Prop :=
  ∀ part, description.audio = some part → Usable part →
    lastConnection (splitLines part) = none →
      (lastConnection description.linesBefore).join = description.sessionAddress

end Sections

/-! ### Reading the lines before, inside and after the audio section -/

/-- The variables of the loop before the audio section, with the last address seen. -/
def scanBefore (address : Option Bytes) : AudioScan := { sessionAddress := address }

/-- The variables of the loop inside the audio section, with what its last c= line gave. -/
def scanInside (address : Option Bytes) (audio : AudioDescription)
    (connection : Option (Option Bytes)) : AudioScan where
  sessionAddress := address
  audio := some audio
  mediaAddress := connection.join
  hasMediaConnection := connection.isSome
  inAudio := true
  seenAudio := true

/-- What a line of the audio section does to the description. -/
def attributeLine (audio : AudioDescription) (line : Bytes) : AudioDescription :=
  match lineParts line with
  | none => audio
  | some (kind, value) => if kind = 97 then addAttribute audio value else audio

theorem lineParts_eq_some {line value : Bytes} {kind : UInt8}
    (parts : lineParts line = some (kind, value)) : line = kind :: 61 :: value := by
  unfold lineParts at parts
  split at parts
  · cases parts
    rfl
  · cases parts

theorem isMediaLine_iff (line : Bytes) :
    isMediaLine line = true ↔ ∃ value, lineParts line = some (109, value) := by
  refine isPrefixOf_iff_prefix.trans ?_
  constructor
  · rintro ⟨value, rfl⟩
    exact ⟨value, rfl⟩
  · rintro ⟨value, parts⟩
    exact ⟨value, (lineParts_eq_some parts).symm⟩

theorem isAudioLine_of_parts {line value : Bytes} (parts : lineParts line = some (109, value)) :
    isAudioLine line = (ascii "audio ").isPrefixOf value := by
  rw [lineParts_eq_some parts]
  rfl

theorem scanLine_before (address : Option Bytes) (line : Bytes) (other : isAudioLine line = false) :
    scanLine (scanBefore address) line =
      .proceed (scanBefore ((connectionOf line).getD address)) := by
  unfold scanLine connectionOf
  cases parts : lineParts line with
  | none => rfl
  | some pair =>
    obtain ⟨kind, value⟩ := pair
    by_cases media : kind = 109
    · subst media
      rw [isAudioLine_of_parts parts] at other
      simp only [if_pos, scanMedia, other]
      rfl
    · by_cases connection : kind = 99
      · subst connection
        rfl
      · simp only [if_neg media, if_neg connection]
        split <;> rfl

theorem scanLines_before (lines rest : List Bytes) (address : Option Bytes)
    (other : ∀ line ∈ lines, isAudioLine line = false) :
    scanLines (scanBefore address) (lines ++ rest) =
      scanLines (scanBefore ((lastConnection lines).getD address)) rest := by
  induction lines generalizing address with
  | nil => rfl
  | cons line lines hypothesis =>
    rw [cons_append, scanLines, scanLine_before address line (other line mem_cons_self)]
    dsimp only
    rw [hypothesis _ fun line member => other line (mem_cons_of_mem _ member)]
    unfold lastConnection
    rw [filterMap_cons]
    cases connectionOf line with
    | none => rfl
    | some connection =>
      dsimp only
      rw [List.getLast?_cons]
      cases (lines.filterMap connectionOf).getLast? <;> rfl

theorem scanLine_inside (address : Option Bytes) (audio : AudioDescription)
    (connection : Option (Option Bytes)) (line : Bytes) (other : isMediaLine line = false) :
    scanLine (scanInside address audio connection) line =
      .proceed (scanInside address (attributeLine audio line)
        ((connectionOf line).or connection)) := by
  unfold scanLine connectionOf attributeLine
  cases parts : lineParts line with
  | none => rfl
  | some pair =>
    obtain ⟨kind, value⟩ := pair
    have notMedia : ¬ kind = 109 := by
      rintro rfl
      rw [(isMediaLine_iff line).mpr ⟨value, parts⟩] at other
      cases other
    by_cases connects : kind = 99
    · subst connects
      rfl
    · by_cases plain : kind = 97
      · subst plain
        rfl
      · simp only [if_neg notMedia, if_neg connects, if_neg plain]
        rfl

theorem scanLine_after (address : Option Bytes) (audio : AudioDescription)
    (connection : Option (Option Bytes)) (line : Bytes) (media : isMediaLine line = true) :
    scanLine (scanInside address audio connection) line = .stop := by
  obtain ⟨value, parts⟩ := (isMediaLine_iff line).mp media
  unfold scanLine
  rw [parts]
  rfl

/-- The lines of the audio section, up to the end or to the next m= line. -/
theorem scanLines_inside (lines rest : List Bytes) (address : Option Bytes)
    (audio : AudioDescription) (connection : Option (Option Bytes))
    (other : ∀ line ∈ lines, isMediaLine line = false)
    (next : ∀ line, rest.head? = some line → isMediaLine line = true) :
    scanLines (scanInside address audio connection) (lines ++ rest) =
      some (scanInside address (lines.foldl attributeLine audio)
        ((lastConnection lines).or connection)) := by
  induction lines generalizing audio connection with
  | nil =>
    cases rest with
    | nil => rfl
    | cons line rest =>
      rw [nil_append, scanLines, scanLine_after address audio connection line (next line rfl)]
      rfl
  | cons line lines hypothesis =>
    rw [cons_append, scanLines,
      scanLine_inside address audio connection line (other line mem_cons_self)]
    dsimp only
    rw [hypothesis _ _ fun line member => other line (mem_cons_of_mem _ member)]
    unfold lastConnection
    rw [filterMap_cons, foldl_cons]
    cases connectionOf line with
    | none => rfl
    | some found =>
      dsimp only
      rw [List.getLast?_cons]
      cases (lines.filterMap connectionOf).getLast? <;> rfl

theorem addAttribute_port (audio : AudioDescription) (value : Bytes) :
    (addAttribute audio value).port = audio.port := by
  have direction : (if value = ascii "inactive" ∨ value = ascii "recvonly" then
      { audio with remoteSends := false } else audio).port = audio.port := by
    split <;> rfl
  unfold addAttribute
  dsimp only
  split
  · cases parseCrypto (value.drop 7) with
    | none => exact direction
    | some crypto => exact direction
  · exact direction

theorem attributeLine_port (audio : AudioDescription) (line : Bytes) :
    (attributeLine audio line).port = audio.port := by
  unfold attributeLine
  split
  · rfl
  · split
    · exact addAttribute_port audio _
    · rfl

theorem foldl_attributeLine_port (lines : List Bytes) (audio : AudioDescription) :
    (lines.foldl attributeLine audio).port = audio.port := by
  induction lines generalizing audio with
  | nil => rfl
  | cons line lines hypothesis =>
    rw [foldl_cons, hypothesis, attributeLine_port]

theorem finish_inside (address : Option Bytes) (audio : AudioDescription)
    (connection : Option (Option Bytes)) :
    (scanInside address audio connection).finish =
      if audio.port = 0 then none
      else (connection.getD address).map fun found => { audio with address := found } := by
  unfold AudioScan.finish scanInside
  dsimp only
  split
  · rfl
  · cases connection with
    | none =>
      cases address <;> rfl
    | some found => cases found <;> rfl

/-- The lines of a description: those before the audio section, its m= line, the others of the
section, and those from the next section on. -/
theorem scanLines_audio {before rest later : List Bytes} (value : Bytes)
    (other : ∀ line ∈ before, isAudioLine line = false)
    (plain : ∀ line ∈ rest, isMediaLine line = false)
    (next : ∀ line, later.head? = some line → isMediaLine line = true) :
    (scanLines {} (before ++ (ascii "m=audio " ++ value) :: (rest ++ later))).bind
        AudioScan.finish =
      (parseAudioMedia value).bind fun audio =>
        (scanInside (lastConnection before).join (rest.foldl attributeLine audio)
          (lastConnection rest)).finish := by
  have start := scanLines_before before ((ascii "m=audio " ++ value) :: (rest ++ later)) none other
  have joined : (lastConnection before).getD none = (lastConnection before).join := by
    cases lastConnection before <;> rfl
  have media : scanLine (scanBefore (lastConnection before).join) (ascii "m=audio " ++ value) =
      match parseAudioMedia value with
      | none => .refuse
      | some audio => .proceed (scanInside (lastConnection before).join audio none) := by
    have parts : lineParts (ascii "m=audio " ++ value) = some (109, ascii "audio " ++ value) := rfl
    have starts : (ascii "audio ").isPrefixOf (ascii "audio " ++ value) = true :=
      isPrefixOf_iff_prefix.mpr (prefix_append _ _)
    have content : (ascii "audio " ++ value).drop 6 = value := rfl
    unfold scanLine
    rw [parts]
    simp only [if_pos, scanMedia, scanBefore, starts, content]
    cases parseAudioMedia value <;> rfl
  rw [joined] at start
  rw [show ({} : AudioScan) = scanBefore none from rfl, start, scanLines, media]
  cases parseAudioMedia value with
  | none => rfl
  | some audio =>
    have inside := scanLines_inside rest later (lastConnection before).join audio none plain next
    rw [Option.or_none] at inside
    exact congrArg (Option.bind · AudioScan.finish) inside

/-! ### The parts of a description -/

theorem splitLines_flatten (parts : List Bytes)
    (whole : ∀ part ∈ parts.dropLast, Complete part) :
    splitLines parts.flatten = parts.flatMap splitLines := by
  induction parts with
  | nil => rfl
  | cons part parts hypothesis =>
    cases parts with
    | nil =>
      rw [flatten_cons, flatten_nil, append_nil, flatMap_cons,
        flatMap_nil, append_nil]
    | cons next parts =>
      rw [dropLast_cons_cons] at whole
      rw [flatten_cons, splitLines_append (whole part mem_cons_self),
        hypothesis fun part member => whole part (mem_cons_of_mem _ member)]
      rfl

theorem isAudioLine_of_not_media {line : Bytes} (plain : isMediaLine line = false) :
    isAudioLine line = false := by
  refine Bool.eq_false_iff.mpr fun audio => ?_
  have media : isMediaLine line = true := by
    obtain ⟨rest, rfl⟩ := isPrefixOf_iff_prefix.mp audio
    rfl
  rw [plain] at media
  cases media

namespace Sections

variable (description : Sections)

theorem linesBefore_other (line : Bytes) (member : line ∈ description.linesBefore) :
    isAudioLine line = false := by
  rcases mem_append.mp member with inSession | inMedia
  · exact isAudioLine_of_not_media (description.sessionPlain line inSession)
  · obtain ⟨part, inPart, inLines⟩ := mem_flatMap.mp inMedia
    obtain ⟨first, rest, lines, -, plain⟩ :=
      description.mediaStarts part ((takeWhile_sublist _).subset inPart)
    have notAudio := mem_takeWhile_imp inPart
    rw [lines] at inLines
    rcases mem_cons.mp inLines with rfl | inRest
    · rw [isAudioSection, lines, Bool.not_eq_true'] at notAudio
      exact notAudio
    · exact isAudioLine_of_not_media (plain line inRest)

theorem media_split {part : Bytes} (found : description.audio = some part) :
    ∃ later, description.media =
      (description.media.takeWhile fun part => !isAudioSection part) ++ part :: later ∧
        isAudioSection part = true := by
  obtain ⟨isAudio, before, later, split, others⟩ := List.find?_eq_some_iff_append.mp found
  refine ⟨later, ?_, isAudio⟩
  have front : (description.media.takeWhile fun part => !isAudioSection part) = before := by
    rw [split, takeWhile_append_of_pos others, takeWhile_cons_of_neg (by simp [isAudio]),
      append_nil]
  rw [front]
  exact split

theorem complete_session {part : Bytes} (found : description.audio = some part) :
    Complete description.session := by
  obtain ⟨later, split, -⟩ := description.media_split found
  refine description.wholeLines _ ?_
  cases media : description.media with
  | nil =>
    rw [media] at split
    cases split
  | cons next others =>
    rw [dropLast_cons_cons]
    exact mem_cons_self

theorem splitLines_text :
    splitLines description.text =
      splitLines description.session ++ description.media.flatMap splitLines :=
  splitLines_flatten (description.session :: description.media) description.wholeLines

theorem later_starts {later : List Bytes} (inside : ∀ part ∈ later, part ∈ description.media)
    (line : Bytes) (first : (later.flatMap splitLines).head? = some line) :
    isMediaLine line = true := by
  cases later with
  | nil => cases first
  | cons part later =>
    obtain ⟨start, rest, lines, media, -⟩ :=
      description.mediaStarts part (inside part mem_cons_self)
    rw [flatMap_cons, lines] at first
    cases first
    exact media

/-- What the parser makes of the first audio section once an address is in force. -/
def audioFrom (part : Bytes) (address : Option Bytes) : Option AudioDescription :=
  match splitLines part with
  | [] => none
  | line :: rest =>
    match parseAudioMedia (line.drop 8) with
    | none => none
    | some audio =>
      (scanInside address (rest.foldl attributeLine audio) (lastConnection rest)).finish

/-- Reading the audio section after any lines that start no audio section. -/
theorem scan_audio {part : Bytes} {before : List Bytes} {later : List Bytes}
    (member : part ∈ description.media) (isAudio : isAudioSection part = true)
    (other : ∀ line ∈ before, isAudioLine line = false)
    (next : ∀ line, later.head? = some line → isMediaLine line = true) :
    (scanLines {} (before ++ (splitLines part ++ later))).bind AudioScan.finish =
      audioFrom part (lastConnection before).join := by
  obtain ⟨line, rest, lines, media, plain⟩ := description.mediaStarts part member
  have audioLine : isAudioLine line = true := by
    rw [isAudioSection, lines] at isAudio
    exact isAudio
  obtain ⟨value, rfl⟩ := isPrefixOf_iff_prefix.mp audioLine
  have content : (ascii "m=audio " ++ value).drop 8 = value := rfl
  unfold audioFrom
  rw [lines, cons_append, scanLines_audio value other plain next]
  dsimp only
  rw [content]
  cases parseAudioMedia value <;> rfl

theorem parseAudio_text {part : Bytes} (found : description.audio = some part) :
    parseAudio description.text =
      audioFrom part (lastConnection description.linesBefore).join := by
  obtain ⟨later, split, isAudio⟩ := description.media_split found
  have member : part ∈ description.media := mem_of_find?_eq_some found
  have lines : splitLines description.text =
      description.linesBefore ++ (splitLines part ++ later.flatMap splitLines) := by
    rw [splitLines_text, linesBefore, append_assoc]
    conv_lhs => rw [split]
    rw [flatMap_append, flatMap_cons]
  unfold parseAudio
  rw [lines]
  refine description.scan_audio member isAudio description.linesBefore_other
    (description.later_starts fun other inLater => ?_)
  rw [split]
  exact mem_append_right _ (mem_cons_of_mem _ inLater)

theorem parseAudio_audioText {part : Bytes} (found : description.audio = some part) :
    parseAudio description.audioText = audioFrom part description.sessionAddress := by
  obtain ⟨later, split, isAudio⟩ := description.media_split found
  have member : part ∈ description.media := mem_of_find?_eq_some found
  have nothing : ∀ line, ([] : List Bytes).head? = some line → isMediaLine line = true := by
    intro line first
    cases first
  unfold parseAudio
  rw [audioText, found, Option.getD_some, splitLines_append (description.complete_session found)]
  have read := description.scan_audio member isAudio
    (fun line inside => isAudioLine_of_not_media (description.sessionPlain line inside)) nothing
  rw [append_nil] at read
  exact read

/-- Without an audio section neither text has an audio stream. -/
theorem parseAudio_of_no_audio (missing : description.audio = none) :
    parseAudio description.text = none ∧ parseAudio description.audioText = none := by
  have all : (description.media.takeWhile fun part => !isAudioSection part) =
      description.media := by
    rw [takeWhile_eq_self_iff]
    intro part member
    rw [Bool.not_eq_true']
    exact Bool.eq_false_iff.mpr (List.find?_eq_none.mp missing part member)
  have plain : ∀ lines : List Bytes, (∀ line ∈ lines, isAudioLine line = false) →
      (scanLines {} lines).bind AudioScan.finish = none := by
    intro lines other
    have read := scanLines_before lines [] none other
    rw [append_nil] at read
    rw [show ({} : AudioScan) = scanBefore none from rfl, read]
    rfl
  unfold parseAudio
  constructor
  · refine plain _ fun line member => description.linesBefore_other line ?_
    rw [linesBefore, all, ← splitLines_text]
    exact member
  · rw [audioText, missing, Option.getD_none, append_nil]
    exact plain _ fun line member =>
      isAudioLine_of_not_media (description.sessionPlain line member)

/-- The audio section read from its m= line on. -/
theorem audioFrom_eq {part line : Bytes} {rest : List Bytes}
    (lines : splitLines part = line :: rest)
    (media : isMediaLine line = true) (address : Option Bytes) :
    audioFrom part address = (parseAudioMedia (line.drop 8)).bind fun audio =>
      if audio.port = 0 then none
      else ((lastConnection (splitLines part)).getD address).map fun found =>
        { rest.foldl attributeLine audio with address := found } := by
  have unconnected : lastConnection (line :: rest) = lastConnection rest := by
    obtain ⟨value, parts⟩ := (isMediaLine_iff line).mp media
    have other : connectionOf line = none := by
      rw [connectionOf, parts]
      rfl
    unfold lastConnection
    rw [filterMap_cons, other]
  unfold audioFrom
  rw [lines]
  dsimp only
  cases parseAudioMedia (line.drop 8) with
  | none => rfl
  | some audio =>
    dsimp only
    rw [finish_inside, Option.bind_some, unconnected, foldl_attributeLine_port]

theorem address_of_audioFrom {part line : Bytes} {rest : List Bytes} {address : Option Bytes}
    {found : AudioDescription} (lines : splitLines part = line :: rest)
    (media : isMediaLine line = true) (read : audioFrom part address = some found) :
    some found.address = (lastConnection (splitLines part)).getD address := by
  rw [audioFrom_eq lines media] at read
  obtain ⟨audio, -, rest⟩ := Option.bind_eq_some_iff.mp read
  split at rest
  · cases rest
  · obtain ⟨own, taken, rfl⟩ := Option.map_eq_some_iff.mp rest
    exact taken.symm

/-- Other media sections leave the audio stream alone exactly when the c= lines before the
audio section leave the address it uses as it is. -/
theorem independent_iff (description : Sections) :
    description.Independent ↔ description.AddressKept := by
  cases found : description.audio with
  | none =>
    obtain ⟨whole, alone⟩ := description.parseAudio_of_no_audio found
    refine iff_of_true ⟨by rw [whole, alone], fun audio read => ?_⟩ fun part other => ?_
    · rw [whole] at read
      cases read
    · rw [found] at other
      cases other
  | some part =>
    obtain ⟨line, rest, lines, media, -⟩ :=
      description.mediaStarts part (mem_of_find?_eq_some found)
    have whole := description.parseAudio_text found
    have alone := description.parseAudio_audioText found
    constructor
    · rintro ⟨same, -⟩ other otherFound ⟨otherLine, otherRest, audio, otherLines, usable, port⟩
        unconnected
      rw [found] at otherFound
      cases otherFound
      rw [lines] at otherLines
      cases otherLines
      rw [whole, alone, audioFrom_eq lines media, audioFrom_eq lines media, usable,
        Option.bind_some, Option.bind_some, if_neg port, if_neg port, unconnected,
        Option.getD_none, Option.getD_none] at same
      refine Option.map_injective (fun first second equal => ?_) same
      exact congrArg AudioDescription.address equal
    · intro kept
      have same : audioFrom part (lastConnection description.linesBefore).join =
          audioFrom part description.sessionAddress := by
        rw [audioFrom_eq lines media, audioFrom_eq lines media]
        cases read : parseAudioMedia (line.drop 8) with
        | none => rfl
        | some audio =>
          rw [Option.bind_some, Option.bind_some]
          by_cases port : audio.port = 0
          · rw [if_pos port, if_pos port]
          · cases connection : lastConnection (splitLines part) with
            | some own => rfl
            | none => rw [kept part found ⟨line, rest, audio, lines, read, port⟩ connection]
      refine ⟨by rw [whole, alone, same], fun audio read => ⟨part, found, ?_⟩⟩
      rw [whole, same] at read
      exact address_of_audioFrom lines media read

end Sections

/-- A description whose video section, before an audio section without a c= line, has its own
address. -/
def videoFirst : Sections where
  session := ascii "v=0\r\nc=IN IP4 10.0.0.1\r\n"
  media := [ascii "m=video 4000 RTP/AVP 96\r\nc=IN IP4 10.0.0.2\r\n",
    ascii "m=audio 5000 RTP/AVP 8\r\n"]
  sessionPlain := by decide +kernel
  mediaStarts := by
    intro part member
    rcases List.mem_cons.mp member with rfl | member
    · exact ⟨_, _, rfl, by decide +kernel, by decide +kernel⟩
    · rw [List.mem_singleton.mp member]
      exact ⟨_, _, rfl, by decide +kernel, by decide +kernel⟩
  wholeLines := by
    intro part member
    rcases List.mem_cons.mp member with rfl | member
    · exact Or.inr ⟨ascii "v=0\r\nc=IN IP4 10.0.0.1\r", by decide +kernel⟩
    · rw [List.mem_singleton.mp member]
      exact Or.inr ⟨ascii "m=video 4000 RTP/AVP 96\r\nc=IN IP4 10.0.0.2\r", by decide +kernel⟩

/-- The audio stream gets the video section's address. -/
theorem videoFirst_not_independent : ¬ videoFirst.Independent := by
  rintro ⟨same, -⟩
  have whole : (parseAudio videoFirst.text).map AudioDescription.address =
      some (ascii "10.0.0.2") := by decide +kernel
  have alone : (parseAudio videoFirst.audioText).map AudioDescription.address =
      some (ascii "10.0.0.1") := by decide +kernel
  rw [same, alone] at whole
  exact absurd whole (by decide)

end KetPhone.Sip
