import NoiseLink.Link.Encoder
import NoiseLink.Link.Decoder
import NoiseLink.Noise.Initiator
import NoiseLink.Noise.Responder

namespace NoiseLink

inductive Role (S : Suite) where
  | initiator (i : Initiator S)
  | responder (r : Responder S)

def Role.expectedSize {S : Suite} : Role S → Option Nat
  | .initiator i => i.expectedSize
  | .responder r => r.expectedSize

inductive HandshakeStep where
  | needMore (size : Nat)
  | send (act : Bytes)
  /-- The handshake is complete; an initiator has act three left to send. -/
  | ready (reply : Option Bytes)
  deriving DecidableEq, Repr

inductive Link.State (S : Suite) where
  | fresh
  | handshake (role : Role S)
  | established (encoder : Encoder S) (decoder : Decoder S)
  | closed

structure Link (S : Suite) where
  state : Link.State S
  buffer : Bytes
  remote : Option S.Point
  limit : Nat

namespace Link

variable {S : Suite}

def new : Link S := ⟨.fresh, [], none, maxMessageSize⟩

def withLimit (l : Link S) (size : Nat) : Link S := { l with limit := min size maxMessageSize }

def isFresh (l : Link S) : Bool :=
  match l.state with
  | .fresh => true
  | _ => false

def isReady (l : Link S) : Bool :=
  match l.state with
  | .established _ _ => true
  | _ => false

def State.label : State S → String
  | .fresh => "NotInitialized"
  | .handshake _ => "HandShake"
  | .established _ _ => "Transport"
  | .closed => "Closed"

def start (l : Link S) : Role S → Except LinkError HandshakeStep × Link S
  | .initiator i =>
    if l.isFresh then
      let l := { l with remote := some i.remote }
      match i.sendActOne with
      | (.ok act, i) => (.ok (.send act), { l with state := .handshake (.initiator i) })
      | (.error e, _) => (.error (.noise e), l)
    else (.error .unexpectedState, l)
  | .responder r =>
    if l.isFresh then
      (.ok (.needMore (r.expectedSize.getD 0)), { l with state := .handshake (.responder r) })
    else (.error .unexpectedState, l)

/-- The session that the last act gave; bytes beyond that act already belong to records. -/
def establish (l : Link S) (session : Session S) : Link S :=
  { l with
    state := .established ((Encoder.new session.sealer).setLimit l.limit) ((Decoder.new session.opener).feed l.buffer)
    buffer := [] }

def receiveAct (l : Link S) (size : Nat) (act : Bytes) : Role S → Except LinkError HandshakeStep × Link S
  | .responder r =>
    if size = actOneSize then
      match r.receiveActOne act with
      | (.ok reply, r) => (.ok (.send reply), { l with state := .handshake (.responder r) })
      | (.error e, r) => (.error (.noise e), { l with state := .handshake (.responder r) })
    else
      match r.receiveActThree act with
      | (.ok (remote, session), _) => (.ok (.ready none), { l with remote := some remote }.establish session)
      | (.error e, r) => (.error (.noise e), { l with state := .handshake (.responder r) })
  | .initiator i =>
    match i.receiveActTwo act with
    | (.ok (reply, session), _) => (.ok (.ready (some reply)), l.establish session)
    | (.error e, i) => (.error (.noise e), { l with state := .handshake (.initiator i) })

def feedHandshake (l : Link S) (b : Bytes) : Except LinkError HandshakeStep × Link S :=
  match l.state with
  | .handshake role =>
    let l := { l with buffer := l.buffer ++ b }
    match role.expectedSize with
    | none => (.error (.noise .handshakeAborted), l)
    | some size =>
      if l.buffer.length < size then (.ok (.needMore (size - l.buffer.length)), l)
      else { l with buffer := l.buffer.drop size }.receiveAct size (l.buffer.take size) role
  | _ => (.error .unexpectedState, l)

def encrypt (l : Link S) (payload : Bytes) : Except LinkError Bytes × Link S :=
  match l.state with
  | .established encoder decoder =>
    let (r, encoder) := encoder.encode payload
    (r, { l with state := .established encoder decoder })
  | _ => (.error .unexpectedState, l)

def feed (l : Link S) (b : Bytes) : Except LinkError Unit × Link S :=
  match l.state with
  | .established encoder decoder => (.ok (), { l with state := .established encoder (decoder.feed b) })
  | _ => (.error .unexpectedState, l)

def close (l : Link S) : Link S := { l with state := .closed, buffer := [] }

/-- The next whole payload, if one has arrived. A record that fails closes the link. -/
def next (l : Link S) : Except LinkError (Option Bytes) × Link S :=
  match l.state with
  | .established encoder decoder =>
    match decoder.next with
    | (.ok payload, decoder) => (.ok (some payload), { l with state := .established encoder decoder })
    | (.error (.missingBytes _), decoder) => (.ok none, { l with state := .established encoder decoder })
    | (.error e, _) => (.error e, l.close)
  | _ => (.error .unexpectedState, l)

def receive (l : Link S) (pieces : List Bytes) : Except LinkError (List Bytes × Decoder.Stop) × Link S :=
  match l.state with
  | .established encoder decoder =>
    match decoder.receive pieces with
    | (payloads, none, decoder) => (.ok (payloads, none), { l with state := .established encoder decoder })
    | (payloads, some e, _) => (.ok (payloads, some e), l.close)
  | _ => (if pieces = [] then .ok ([], none) else .error .unexpectedState, l)

/-- Judges the end of the input: no act and no record may be left incomplete. -/
def finish (l : Link S) : Except LinkError Unit :=
  match l.state with
  | .established _ decoder => decoder.finish
  | .handshake role =>
    if l.buffer = [] then .ok () else .error (.truncatedRecord (role.expectedSize.getD 0) l.buffer.length)
  | _ => .ok ()

def split (l : Link S) : Except LinkError (Encoder S × Decoder S) :=
  match l.state with
  | .established encoder decoder => .ok (encoder, decoder)
  | _ => .error .unexpectedState

end Link
end NoiseLink
