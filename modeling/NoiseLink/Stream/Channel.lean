import NoiseLink.Stream.Basic

namespace NoiseLink

inductive Turn where
  | send
  | receive
  deriving DecidableEq, Repr

structure Channel (S : Suite) where
  reader : Reader S
  writer : Writer S
  /-- Payloads queued for sending, and whether more can follow. -/
  outgoing : List Bytes
  outgoingClosed : Bool
  delivered : List Bytes
  incomingClosed : Bool
  outcome : Option (Option StreamError)

namespace Channel

variable {S : Suite}

def ofStream (s : Stream S) (outgoing : List Bytes) (outgoingClosed incomingClosed : Bool) : Channel S :=
  ⟨s.reader, s.writer, outgoing, outgoingClosed, [], incomingClosed, none⟩

/-- The task ends: the sending key goes, and the queues are closed. -/
def stop (c : Channel S) (e : Option StreamError) : Channel S :=
  { c with writer := c.writer.shutdown, outgoingClosed := true, incomingClosed := true, outcome := some e }

def sendTurn (c : Channel S) : Channel S :=
  match c.outgoing with
  | [] => if c.outgoingClosed then c.stop none else c
  | payload :: rest =>
    let (r, writer) := c.writer.writeFrame payload
    let c := { c with writer, outgoing := rest }
    match r with
    | .ok () => c
    | .error e => c.stop (some e)

/-- One payload that is complete, or else one read of the socket. -/
def receiveTurn (c : Channel S) : Channel S :=
  match Reader.poll c.reader.decoder with
  | (.ok (some payload), decoder) =>
    let c := { c with reader := { c.reader with decoder } }
    if c.incomingClosed then c.stop none else { c with delivered := c.delivered ++ [payload] }
  | (.error e, decoder) => { c with reader := { c.reader with decoder } }.stop (some e)
  | (.ok none, decoder) =>
    match c.reader.inbound with
    | [] => { c with reader := ⟨decoder, []⟩ }
    | .data b :: rest => { c with reader := ⟨decoder.feed b, rest⟩ }
    | .pause :: rest => { c with reader := ⟨decoder, rest⟩ }
    | .finish :: rest =>
      let c := { c with reader := ⟨decoder, .finish :: rest⟩ }
      match decoder.finish with
      | .error e => c.stop (some (.link e))
      | .ok () => c.stop none

def turn (c : Channel S) : Turn → Channel S
  | .send => if c.outcome.isSome then c else c.sendTurn
  | .receive => if c.outcome.isSome then c else c.receiveTurn

def run (c : Channel S) (turns : List Turn) : Channel S := turns.foldl turn c

def weight (c : Channel S) : Nat := c.reader.available + c.reader.inbound.length + 1

/-- Sends come first, then reads until the task ends. -/
def schedule (c : Channel S) : List Turn :=
  List.replicate (c.outgoing.length + 1) .send ++ List.replicate c.weight .receive

end Channel
end NoiseLink
