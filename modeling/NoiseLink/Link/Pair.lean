import NoiseLink.Link.Basic

namespace NoiseLink

/-- One side: its link, what it has under way to the other side, and the payloads that went through it. -/
structure Side (S : Suite) where
  link : Link S
  outbound : Bytes
  sent : List Bytes
  received : List Bytes

namespace Side

variable {S : Suite}

def actOf : HandshakeStep → Bytes
  | .needMore _ => []
  | .send act => act
  | .ready reply => reply.getD []

def start (limit : Nat) (role : Role S) : Except LinkError (Side S) :=
  match (Link.new.withLimit limit).start role with
  | (.ok step, link) => .ok ⟨link, actOf step, [], []⟩
  | (.error e, _) => .error e

def accept (s : Side S) (b : Bytes) : Except LinkError (Side S) :=
  if s.link.isReady then
    match s.link.feed b with
    | (.ok (), link) => .ok { s with link }
    | (.error e, _) => .error e
  else
    match s.link.feedHandshake b with
    | (.ok step, link) => .ok { s with link, outbound := s.outbound ++ actOf step }
    | (.error e, _) => .error e

def send (s : Side S) (payload : Bytes) : Except LinkError (Side S) :=
  match s.link.encrypt payload with
  | (.ok record, link) => .ok { s with link, outbound := s.outbound ++ record, sent := s.sent ++ [payload] }
  | (.error e, _) => .error e

def poll (s : Side S) : Except LinkError (Side S) :=
  match s.link.next with
  | (.ok (some payload), link) => .ok { s with link, received := s.received ++ [payload] }
  | (.ok none, link) => .ok { s with link }
  | (.error e, _) => .error e

end Side

structure Pair (S : Suite) where
  initiator : Side S
  responder : Side S

namespace Pair

variable {S : Suite}

inductive End where
  | initiator
  | responder
  deriving DecidableEq, Repr

inductive Step where
  | deliver (target : End) (size : Nat)
  | send (source : End) (payload : Bytes)
  | poll (target : End)
  deriving DecidableEq, Repr

def start (i : Initiator S) (r : Responder S) (initiatorLimit responderLimit : Nat) : Except LinkError (Pair S) := do
  return ⟨← Side.start initiatorLimit (.initiator i), ← Side.start responderLimit (.responder r)⟩

def side (p : Pair S) : End → Side S
  | .initiator => p.initiator
  | .responder => p.responder

def deliver (p : Pair S) (size : Nat) : End → Except LinkError (Pair S)
  | .initiator => do
    let initiator ← p.initiator.accept (p.responder.outbound.take size)
    return ⟨initiator, { p.responder with outbound := p.responder.outbound.drop size }⟩
  | .responder => do
    let responder ← p.responder.accept (p.initiator.outbound.take size)
    return ⟨{ p.initiator with outbound := p.initiator.outbound.drop size }, responder⟩

def step (p : Pair S) : Step → Except LinkError (Pair S)
  | .deliver target size => p.deliver size target
  | .send .initiator payload => do return { p with initiator := ← p.initiator.send payload }
  | .send .responder payload => do return { p with responder := ← p.responder.send payload }
  | .poll .initiator => do return { p with initiator := ← p.initiator.poll }
  | .poll .responder => do return { p with responder := ← p.responder.poll }

def run (p : Pair S) (steps : List Step) : Except LinkError (Pair S) := steps.foldlM step p

def flush (p : Pair S) (target : End) : Except LinkError (Pair S) :=
  match target with
  | .initiator => p.deliver p.responder.outbound.length .initiator
  | .responder => p.deliver p.initiator.outbound.length .responder

def handshake (i : Initiator S) (r : Responder S) : Except LinkError ((Bytes × Bytes × Bytes) × Pair S) := do
  let p ← start i r maxMessageSize maxMessageSize
  let q ← p.flush .responder
  let s ← q.flush .initiator
  return ((p.initiator.outbound, q.responder.outbound, s.initiator.outbound), ← s.flush .responder)

def carry (p : Pair S) (source target : End) (payload : Bytes) : Except LinkError (Nat × Pair S) := do
  let p ← p.step (.send source payload)
  let size := (p.side source).outbound.length
  return (size, ← (← p.flush target).step (.poll target))

end Pair
end NoiseLink
