/-
This file models `sip/digest.cpp`: reading a digest challenge and answering it.
The client nonce is the one random value in an answer and comes in as an
argument.
-/

import KetPhone.Md5
import KetPhone.Text

namespace KetPhone.Sip

structure Challenge where
  realm : Bytes := []
  nonce : Bytes := []
  opaqueText : Bytes := []
  algorithm : Bytes := []
  qopAuth : Bool := false
  deriving DecidableEq, Repr

/-- Drops commas and the blanks around them. -/
def skipCommas : Nat → Bytes → Bytes
  | 0, value => value
  | fuel + 1, value =>
    match value with
    | 44 :: rest => skipCommas fuel (trim rest)
    | _ => value

/-- The text of a quoted value after its opening quote, and what follows the closing one. -/
def readQuoted : Bytes → Bytes × Bytes
  | [] => ([], [])
  | 34 :: rest => ([], rest)
  | [92] => ([92], [])
  | 92 :: escaped :: rest =>
    let (text, after) := readQuoted rest
    (escaped :: text, after)
  | byte :: rest =>
    let (text, after) := readQuoted rest
    (byte :: text, after)

/-- A parameter value, quoted or up to the next comma, and what follows it. -/
def readValue (value : Bytes) : Bytes × Bytes :=
  match value with
  | 34 :: rest => readQuoted rest
  | _ =>
    match findByte 44 value with
    | none => (trim value, [])
    | some place => (trim (value.take place), value.drop place)

/-- Whether a comma-separated list of options holds `auth`. -/
def offersAuth (options : Bytes) : Bool :=
  (pieces 44 options).any fun option => iequals (trim option) (ascii "auth")

/-- Takes over one parameter. -/
def setParameter (challenge : Challenge) (key value : Bytes) : Challenge :=
  if key = ascii "realm" then { challenge with realm := value }
  else if key = ascii "nonce" then { challenge with nonce := value }
  else if key = ascii "opaque" then { challenge with opaqueText := value }
  else if key = ascii "algorithm" then { challenge with algorithm := value }
  else if key = ascii "qop" then
    { challenge with qopAuth := challenge.qopAuth || offersAuth value }
  else challenge

/-- The loop over the parameters, with whether a nonce was among them. -/
def challengeLoop : Nat → Bytes → Challenge → Bool → Challenge × Bool
  | 0, _, challenge, hasNonce => (challenge, hasNonce)
  | fuel + 1, raw, challenge, hasNonce =>
    if raw = [] then (challenge, hasNonce)
    else
      let value := skipCommas raw.length (trim raw)
      match findByte 61 value with
      | none => (challenge, hasNonce)
      | some equals =>
        let key := lowercase (trim (value.take equals))
        let (parsed, rest) := readValue (trim (value.drop (equals + 1)))
        challengeLoop fuel rest (setParameter challenge key parsed)
          (hasNonce || key == ascii "nonce")

def parseChallenge (raw : Bytes) : Option Challenge :=
  let value := trim raw
  if value.length < 7 ∨ !iequals (value.take 6) (ascii "Digest") then none
  else
    let rest := value.drop 6
    let (challenge, hasNonce) := challengeLoop (rest.length + 1) rest {} false
    if hasNonce then some challenge else none

structure Credentials where
  username : Bytes
  password : Bytes
  deriving DecidableEq, Repr

/-- `join`: parts separated by colons, where a colon is written only once something stands
before it. -/
def joinParts (parts : List Bytes) : Bytes :=
  parts.foldl (fun out part => if out = [] then part else out ++ ascii ":" ++ part) []

def digestResponse (credentials : Credentials) (challenge : Challenge)
    (method uri nc cnonce : Bytes) : Bytes :=
  let ha1 := md5Hex (joinParts [credentials.username, challenge.realm, credentials.password])
  let ha2 := md5Hex (joinParts [method, uri])
  if challenge.qopAuth then
    md5Hex (joinParts [ha1, challenge.nonce, nc, cnonce, ascii "auth", ha2])
  else md5Hex (joinParts [ha1, challenge.nonce, ha2])

/-- Whether the algorithm of a challenge is one this side can answer. -/
def Challenge.answerable (challenge : Challenge) : Bool :=
  challenge.algorithm.isEmpty || iequals challenge.algorithm (ascii "MD5")

/-- `authorization_value` once the client nonce is drawn. -/
def authorizationValue (credentials : Credentials) (challenge : Challenge)
    (method uri cnonce : Bytes) : Option Bytes :=
  if !challenge.answerable then none
  else
    let nc := ascii "00000001"
    let quote := ascii "\""
    some (ascii "Digest username=\"" ++ credentials.username ++ ascii "\", realm=\"" ++
      challenge.realm ++ ascii "\", nonce=\"" ++ challenge.nonce ++ ascii "\", uri=\"" ++ uri ++
      ascii "\", response=\"" ++ digestResponse credentials challenge method uri nc cnonce ++
      ascii "\", algorithm=MD5" ++
      (if challenge.qopAuth then
        ascii ", qop=auth, nc=" ++ nc ++ ascii ", cnonce=\"" ++ cnonce ++ quote
      else []) ++
      (if challenge.opaqueText = [] then []
      else ascii ", opaque=\"" ++ challenge.opaqueText ++ quote))

end KetPhone.Sip
