import NoiseLink.Peer.Status
import NoiseLink.Stream.Basic
import NoiseLink.Text.Quoted
import NoiseLink.Text.Utf8

namespace NoiseLink

structure Settings where
  timeout : Duration
  limit : Nat
  greeting : Option String
  deriving DecidableEq, Repr

structure Socket where
  address : String
  inbound : List Arrival

structure Handled (S : Suite) where
  statuses : List (Status S)
  received : Nat
  sent : Bytes
  ended : Bool

variable {S : Suite}

def Writer.greet (w : Writer S) (greeting : Option String) : Except StreamError Unit × Writer S :=
  match greeting with
  | some text => w.writeFrame (Text.utf8 text.toList)
  | none => (.ok (), w)

/-- How many payloads arrive, how reading them ends, and what has been sent. After a greeting that fails nothing is
read. -/
def Stream.serve (s : Stream S) (greeting : Option String) : Nat × Reading × Bytes :=
  match s.writer.greet greeting with
  | (.error e, w) => (0, .failed e, w.written)
  | (.ok (), w) =>
    let (payloads, ending, _) := s.reader.readAll
    (payloads.length, ending, w.written)

def Settings.connect (settings : Settings) (role : Role S) (socket : Socket) : Connected S :=
  Stream.connect role settings.limit socket.inbound

/-- What an attempt to connect is reported as. A peer that stays silent in the middle of the handshake is given up
after the timeout. -/
def Status.ofConnected (address : String) (timeout : Duration) : Connected S → Status S
  | .failed e _ => .handshakeFailed address (.ofHandshake e)
  | .waiting _ _ => .handshakeFailed address (.handshakeTimeout timeout)
  | .done stream => .connected address stream.remote

def Status.ofEnding (address : String) : Reading → Option (Status S)
  | .failed .socketClosed => some (.disconnected address none)
  | .failed e => some (.disconnected address (some (.ofTransport e)))
  | _ => none

def Settings.handle (settings : Settings) (role : Role S) (socket : Socket) : Handled S :=
  let connected := settings.connect role socket
  let status := Status.ofConnected socket.address settings.timeout connected
  match connected with
  | .done stream =>
    let (n, ending, sent) := stream.serve settings.greeting
    match Status.ofEnding socket.address ending with
    | some ended => ⟨[status, ended], n, sent, true⟩
    | none => ⟨[status], n, sent, false⟩
  | _ => ⟨[status], 0, connected.written, true⟩

def recordEvents (address : String) (node : S.Point) (n : Nat) (payload : Bytes) : List Log.Event :=
  let about := "Record #" ++ toString n ++ " from " ++ S.point.print node ++ " (" ++ address ++ "): "
  [⟨.info, "peer_bolt8::connection", about ++ toString payload.length ++ " bytes"⟩,
    ⟨.debug, "peer_bolt8::connection", "Payload: " ++ Text.quote (Text.lossy payload)⟩]

end NoiseLink
