/-
This file models the media half of `core/engine.cpp`: the RTP socket, the two SRTP
contexts and the media session, as the user agent opens, starts and closes them,
and the part of the loop that receives and sends RTP. Sockets, the resolver and
libsrtp are functions of the platform that may fail at any call. The media session
is only active or not; the packets it makes are inputs. Signalling leaves through
`send_sip` and has no effect here.
-/

import KetPhone.UserAgent.Dispatch

namespace KetPhone.Core

/-! ### The platform -/

inductive AddressFamily where
  | inet
  | inet6
  deriving DecidableEq, Repr

structure Endpoint where
  family : AddressFamily
  address : Bytes
  port : UInt16
  deriving DecidableEq, Repr

/-- The direction of one SRTP context. -/
inductive Direction where
  | outbound
  | inbound
  deriving DecidableEq, Repr

/-- What the engine calls. Each result may depend on the number of the call. -/
structure Platform (Session : Type) where
  /-- `UdpSocket::open`, with what `local` then says of the socket's port. -/
  openSocket : Nat → AddressFamily → Option (Option UInt16)
  resolveAll : Nat → Bytes → UInt16 → List Endpoint
  srtpCreate : Nat → Direction → Bytes → Option Session
  srtpProtect : Nat → Session → Bytes → Option Bytes × Session
  srtpUnprotect : Nat → Session → Bytes → Option Bytes × Session

/-- The master key and the master salt. -/
def kSrtpKeyLength : Nat := 30

structure SrtpStream (Session : Type) where
  key : Bytes
  session : Session
  deriving DecidableEq

structure Engine (Session : Type) where
  platform : Platform Session
  calls : Nat := 0
  mediaFamily : AddressFamily
  rtp : Option AddressFamily := none
  rtpRemote : Option Endpoint := none
  srtpOut : Option (SrtpStream Session) := none
  srtpIn : Option (SrtpStream Session) := none
  /-- `MediaSession::active`. -/
  active : Bool := false
  nextCallId : Int32 := 1

namespace SrtpStream

variable {Session : Type} (platform : Platform Session) (call : Nat) (stream : SrtpStream Session)

/-- The SRTP packet, or nothing on failure. -/
def protect (packet : Bytes) : Bytes × SrtpStream Session :=
  let (result, session) := platform.srtpProtect call stream.session packet
  (result.getD [], { stream with session })

/-- Shorter than an RTP header plus the tag cannot be SRTP. -/
def unprotect (datagram : Bytes) : Option Bytes × SrtpStream Session :=
  if datagram.length < 12 + 10 then (none, stream)
  else
    let (result, session) := platform.srtpUnprotect call stream.session datagram
    (result, { stream with session })

end SrtpStream

namespace Engine

variable {Session : Type}

/-- The engine after a call to the platform. -/
def called (engine : Engine Session) : Engine Session := { engine with calls := engine.calls + 1 }

/-! ### The host of the user agent -/

def openMedia (engine : Engine Session) : UInt16 × Engine Session :=
  match engine.platform.openSocket engine.calls engine.mediaFamily with
  | none => (0, { engine.called with rtp := none })
  | some none => (0, { engine.called with rtp := none })
  | some (some port) => (port, { engine.called with rtp := some engine.mediaFamily })

/-- The context of a key: the current one while its key stays the same, or a new one. -/
def streamFor (direction : Direction) (key : Bytes) (current : Option (SrtpStream Session))
    (engine : Engine Session) : Option (SrtpStream Session) × Engine Session :=
  match current.filter fun stream => stream.key = key with
  | some stream => (some stream, engine)
  | none =>
    ((engine.platform.srtpCreate engine.calls direction key).map fun session => { key, session },
      engine.called)

def useKeys (keys : MediaKeys) (engine : Engine Session) : Bool × Engine Session :=
  if keys.own.length ≠ kSrtpKeyLength ∨ keys.remote.length ≠ kSrtpKeyLength then (false, engine)
  else
    match engine.streamFor .outbound keys.own engine.srtpOut with
    | (none, failed) => (false, failed)
    | (some outbound, sending) =>
      let sending := { sending with srtpOut := some outbound }
      match sending.streamFor .inbound keys.remote sending.srtpIn with
      | (none, failed) => (false, failed)
      | (some inbound, receiving) => (true, { receiving with srtpIn := some inbound })

/-- The endpoint that a socket reaches: one of its own family, or from an IPv6 socket an IPv4
one. -/
def reachable (family : AddressFamily) (endpoints : List Endpoint) : Option Endpoint :=
  match endpoints.find? fun item => item.family = family with
  | some endpoint => some endpoint
  | none =>
    if family = .inet6 then endpoints.find? fun item => item.family = .inet else none

/-- The last part of `start_media`: the far end moves, and the session starts unless it is active
already. -/
def connect (family : AddressFamily) (remote : RemoteMedia) (engine : Engine Session) :
    Engine Session :=
  match reachable family
      (engine.platform.resolveAll engine.calls remote.address remote.port) with
  | none => engine.called
  | some endpoint => { engine.called with rtpRemote := some endpoint, active := true }

def startMedia (remote : RemoteMedia) (engine : Engine Session) : Bool × Engine Session :=
  match engine.rtp with
  | none => (true, engine)
  | some family =>
    match remote.srtp with
    | some keys =>
      let (usable, keyed) := engine.useKeys keys
      if !usable then (false, keyed) else (true, keyed.connect family remote)
    | none => (true, { engine with srtpOut := none, srtpIn := none }.connect family remote)

def closeMedia (engine : Engine Session) : Engine Session :=
  { engine with
    active := false
    rtp := none
    srtpOut := none
    srtpIn := none }

def allocateCallId (engine : Engine Session) : Int32 × Engine Session :=
  (engine.nextCallId, { engine with nextCallId := engine.nextCallId + 1 })

instance : UserAgentHost (Engine Session) where
  sendSip _ engine := engine
  openMedia := openMedia
  startMedia := startMedia
  closeMedia := closeMedia
  allocateCallId := allocateCallId

/-! ### RTP -/

/-- A datagram on the RTP socket, and what `MediaSession::on_packet` gets of it. Anything that
does not authenticate is dropped. -/
def receive (datagram : Bytes) (engine : Engine Session) : Option Bytes × Engine Session :=
  if engine.rtp.isSome && engine.active && !datagram.isEmpty then
    match engine.srtpIn with
    | none => (some datagram, engine)
    | some stream =>
      let (plain, next) := stream.unprotect engine.platform engine.calls datagram
      (plain, { engine.called with srtpIn := some next })
  else (none, engine)

/-- A packet of `MediaSession::next_packet`, and the datagram that is sent for it. -/
def transmit (packet : Bytes) (engine : Engine Session) : Option Bytes × Engine Session :=
  if engine.active && engine.rtp.isSome && !packet.isEmpty then
    match engine.srtpOut with
    | none => (some packet, engine)
    | some stream =>
      let (datagram, next) := stream.protect engine.platform engine.calls packet
      (if datagram.isEmpty then none else some datagram,
        { engine.called with srtpOut := some next })
  else (none, engine)

end Engine

/-! ### The phone -/

/-- What happens to the user agent and its engine. -/
inductive Act where
  | operate (op : Op)
  | receive (datagram : Bytes)
  | transmit (packet : Bytes)
  /-- The application takes a call id for `call`, on its own thread. -/
  | allocate

variable {Session : Type}

def UserAgent.act (agent : UserAgent (Engine Session)) : Act → UserAgent (Engine Session)
  | .operate op => agent.step op
  | .receive datagram => { agent with host := (agent.host.receive datagram).2 }
  | .transmit packet => { agent with host := (agent.host.transmit packet).2 }
  | .allocate => { agent with host := agent.host.allocateCallId.2 }

/-- A phone that has just been created. -/
def phone (config : UserAgentConfig) (platform : Platform Session) (mediaFamily : AddressFamily)
    (random : Random) : UserAgent (Engine Session) :=
  UserAgent.create config { platform, mediaFamily } random

end KetPhone.Core
