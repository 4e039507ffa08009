import NoiseLink.Link.Basic
import NoiseLink.Stream.Error

namespace NoiseLink

inductive Arrival where
  | data (b : Bytes)
  | pause
  | finish
  deriving DecidableEq, Repr

def Arrival.bytes (arrivals : List Arrival) : Bytes :=
  arrivals.flatMap fun
    | .data b => b
    | _ => []

def handshakeReadSize : Nat := actThreeSize

def recordReadSize : Nat := 8192

/-- One way to cut a script into reads: acts first, then as much as a read takes. -/
def Arrival.cut (script : Bytes) : List Arrival :=
  let acts := [script.take actOneSize, (script.drop actOneSize).take actThreeSize]
  ((acts ++ Bytes.chunks recordReadSize (script.drop (actOneSize + actThreeSize))).filter (!·.isEmpty)).map .data

structure Reader (S : Suite) where
  decoder : Decoder S
  inbound : List Arrival

structure Writer (S : Suite) where
  encoder : Encoder S
  written : Bytes

structure Stream (S : Suite) where
  reader : Reader S
  writer : Writer S
  remote : S.Point

inductive Connected (S : Suite) where
  | failed (e : StreamError) (written : Bytes)
  /-- The remote end stays silent in the middle of the handshake; `link` goes on when more arrives. -/
  | waiting (link : Link S) (written : Bytes)
  | done (stream : Stream S)

def Connected.written {S : Suite} : Connected S → Bytes
  | failed _ written | waiting _ written => written
  | done stream => stream.writer.written

namespace Stream

variable {S : Suite}

def ofLink (l : Link S) (inbound : List Arrival) (written : Bytes) : Connected S :=
  match l.remote, l.split with
  | none, _ => .failed (.link .unexpectedState) written
  | _, .error e => .failed (.link e) written
  | some remote, .ok (encoder, decoder) => .done ⟨⟨decoder, inbound⟩, ⟨encoder, written⟩, remote⟩

def handshake (l : Link S) (written : Bytes) : List Arrival → Connected S
  | [] => .waiting l written
  | .pause :: rest => handshake l written rest
  | .finish :: _ =>
    match l.finish with
    | .error e => .failed (.link e) written
    | .ok () => .failed .socketClosed written
  | .data b :: rest =>
    match l.feedHandshake b with
    | (.error e, _) => .failed (.link e) written
    | (.ok (.needMore _), l) => handshake l written rest
    | (.ok (.send act), l) => handshake l (written ++ act) rest
    | (.ok (.ready reply), l) => ofLink l rest (written ++ reply.getD [])

def connect (role : Role S) (limit : Nat) (inbound : List Arrival) : Connected S :=
  match (Link.new.withLimit limit).start role with
  | (.error e, _) => .failed (.link e) []
  | (.ok (.needMore _), l) => handshake l [] inbound
  | (.ok (.send act), l) => handshake l act inbound
  | (.ok (.ready reply), l) => ofLink l inbound (reply.getD [])

end Stream

namespace Writer

variable {S : Suite}

def writeFrame (w : Writer S) (payload : Bytes) : Except StreamError Unit × Writer S :=
  match w.encoder.encode payload with
  | (.ok record, encoder) => (.ok (), ⟨encoder, w.written ++ record⟩)
  | (.error e, encoder) => (.error (.link e), { w with encoder })

def writeAll (w : Writer S) : List Bytes → List (Except StreamError Unit) × Writer S
  | [] => ([], w)
  | payload :: rest =>
    let (r, w) := w.writeFrame payload
    let (rs, w) := w.writeAll rest
    (r :: rs, w)

/-- Nothing can be written after the key is gone. -/
def shutdown (w : Writer S) : Writer S := { w with encoder := w.encoder.erase }

end Writer

inductive Reading where
  | frame (payload : Bytes)
  | waiting
  | failed (e : StreamError)
  deriving DecidableEq, Repr

namespace Reader

variable {S : Suite}

def poll (d : Decoder S) : Except StreamError (Option Bytes) × Decoder S :=
  match d.next with
  | (.ok payload, d) => (.ok (some payload), d)
  | (.error (.missingBytes _), d) => (.ok none, d)
  | (.error e, d) => (.error (.link e), d.erase)

/-- Reads until a payload is complete; `patient` reads wait through pauses. -/
def readFrom (patient : Bool) (d : Decoder S) : List Arrival → Reading × Reader S
  | [] =>
    match poll d with
    | (.ok (some payload), d) => (.frame payload, ⟨d, []⟩)
    | (.error e, d) => (.failed e, ⟨d, []⟩)
    | (.ok none, d) => (.waiting, ⟨d, []⟩)
  | a :: rest =>
    match poll d with
    | (.ok (some payload), d) => (.frame payload, ⟨d, a :: rest⟩)
    | (.error e, d) => (.failed e, ⟨d, a :: rest⟩)
    | (.ok none, d) =>
      match a with
      | .data b => readFrom patient (d.feed b) rest
      | .pause => if patient then readFrom patient d rest else (.waiting, ⟨d, rest⟩)
      | .finish =>
        match d.finish with
        | .error e => (.failed (.link e), ⟨d, a :: rest⟩)
        | .ok () => (.failed .socketClosed, ⟨d, a :: rest⟩)

def readFrame (r : Reader S) : Reading × Reader S := readFrom true r.decoder r.inbound

def tryReadFrame (r : Reader S) : Reading × Reader S := readFrom false r.decoder r.inbound

def collect (read : Reader S → Reading × Reader S) : (fuel : Nat) → Reader S → List Bytes × Reading × Reader S
  | 0, r => ([], .waiting, r)
  | fuel + 1, r =>
    match read r with
    | (.frame payload, r) =>
      let (payloads, ending, r) := collect read fuel r
      (payload :: payloads, ending, r)
    | (ending, r) => ([], ending, r)

def available (r : Reader S) : Nat := r.decoder.buffer.length + (Arrival.bytes r.inbound).length

def readAll (r : Reader S) : List Bytes × Reading × Reader S := collect readFrame (r.available + 1) r

def tryReadAll (r : Reader S) : List Bytes × Reading × Reader S := collect tryReadFrame (r.available + 1) r

end Reader
end NoiseLink
