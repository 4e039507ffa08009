import NoiseLink.Machine
import NoiseLink.Peer.Program
import NoiseLink.Suite.Standard
import Std.Async.Signal
import Std.Async.Timer
import Std.Sync.Channel

namespace NoiseLink.Main

open Std.Async

abbrev S : Suite := Suite.standard

inductive Message where
  | report (status : Status S)
  | ended
  | interrupted
  deriving Inhabited

structure Session where
  config : Config S
  log : Log.Event → IO Unit
  messages : Std.Channel Message

def send (s : Session) (m : Message) : IO Unit := discard (s.messages.send m)

def report (s : Session) (status : Status S) : IO Unit := send s (.report status)

/-- The next arrival on a socket, unless a deadline, in milliseconds, comes first. -/
def arrival? (socket : TCP.Socket.Client) (size : Nat) (deadline : Option Nat) : Async (Option Arrival) := do
  let size := UInt64.ofNat size
  let arrival (b : Option ByteArray) : Arrival :=
    match b with
    | some b => .data b.toList
    | none => .finish
  match deadline with
  | none => return some (arrival (← socket.recv? size))
  | some deadline =>
    let now ← IO.monoMsNow
    if deadline ≤ now then return none
    let sleep ← Selector.sleep (Std.Time.Millisecond.Offset.ofNat (deadline - now))
    Selectable.one #[.case (socket.recvSelector size) fun b => return some (arrival b), .case sleep fun _ => return none]

def write (socket : TCP.Socket.Client) (b : Bytes) : Async Unit := do
  unless b.isEmpty do socket.send (ByteArray.mk b.toArray)

partial def shake (socket : TCP.Socket.Client) (deadline : Nat) (connected : Connected S) : Async (Connected S) := do
  write socket connected.written
  match connected with
  | .waiting link _ =>
    match ← arrival? socket handshakeReadSize (some deadline) with
    | some arrival => shake socket deadline (Stream.handshake link [] [arrival])
    | none => return connected
  | _ => return connected

partial def readRecords (s : Session) (socket : TCP.Socket.Client) (peer : String) (node : S.Point) (count : Nat)
    (reader : Reader S) : Async Reading := do
  let (payloads, ending, reader) := reader.readAll
  for (payload, i) in payloads.zipIdx (count + 1) do
    for event in recordEvents peer node i payload do s.log event
  match ending with
  | .failed _ => return ending
  | _ =>
    match ← arrival? socket recordReadSize none with
    | some arrival => readRecords s socket peer node (count + payloads.length) { reader with inbound := [arrival] }
    | none => return ending

def streamError (e : IO.Error) : StreamError := .ofKind (Machine.systemError e).kind

def converse (s : Session) (socket : TCP.Socket.Client) (peer : String) (stream : Stream S) : Async Reading := do
  match stream.writer.greet s.config.greeting with
  | (.error e, _) => return .failed e
  | (.ok (), writer) =>
    try
      write socket (writer.written.drop stream.writer.written.length)
      let ending ← readRecords s socket peer stream.remote 0 stream.reader
      socket.shutdown
      return ending
    catch e => return .failed (streamError e)

def connection (s : Session) (role : Role S) (socket : TCP.Socket.Client) : Async Unit := do
  let peer := toString (← socket.getPeerName)
  let settings := s.config.settings
  let deadline := (← IO.monoMsNow) + settings.timeout.toNanos / 1000000
  let connected ← try
      shake socket deadline (Stream.connect role settings.limit [])
    catch e => pure (.failed (streamError e) [])
  report s (.ofConnected peer settings.timeout connected)
  if let .done stream := connected then
    if let some ended := Status.ofEnding peer (← converse s socket peer stream) then report s ended

partial def accept (s : Session) (server : TCP.Socket.Server) : Async Unit := do
  try
    let socket ← server.accept
    let role := Role.responder (.new s.config.secret (← Machine.freshSecret S))
    background do
      try connection s role socket catch _ => return ()
    accept s server
  catch e => report s (.listenerShutdown (.system (Machine.systemError e)))

def dial (s : Session) (contact : Contact S) : Async Unit := do
  match Endpoint.parse contact.address with
  | .error e => report s (.dialFailed contact.address (.system e))
  | .ok endpoint =>
    let socket ← try
        some <$> Machine.dial endpoint
      catch e =>
        report s (.dialFailed contact.address (.system (Machine.systemError e)))
        pure none
    if let some socket := socket then
      s.log (Node.dialingEvent contact)
      let role := Role.initiator (.new s.config.secret (← Machine.freshSecret S) contact.node)
      try connection s role socket catch _ => return ()

partial def takeMessages (s : Session) (running : Nat) : Async Unit := do
  if running = 0 then
    s.log Node.idleEvent
  else
    match ← await (← s.messages.recv) with
    | .report status =>
      s.log status.event
      unless status.stops do takeMessages s running
    | .ended => takeMessages s (running - 1)
    | .interrupted =>
      if let some event := Node.shutdownEvent .interrupted then s.log event

def watchInterrupt (s : Session) : Async Unit := do
  let waiter ← Signal.Waiter.mk .sigint false
  discard <| await (← waiter.wait)
  send s .interrupted

def runNode (s : Session) : Async (Except PeerError Unit) := do
  if let .error e := s.config.validate then return .error e
  s.log (Node.idEvent s.config)
  let mut running := s.config.contacts.length
  if let some text := s.config.listen then
    let endpoint ← match Endpoint.parse text with
      | .ok endpoint => pure endpoint
      | .error e => return .error (.system e)
    let server ← try
        pure (Except.ok (← Machine.listen endpoint))
      catch e => pure (.error (PeerError.system (Machine.systemError e)))
    match server with
    | .error e => return .error e
    | .ok server =>
      s.log (Node.listeningEvent (toString (← server.getSockName)))
      background (accept s server)
      running := running + 1
  for contact in s.config.contacts do
    background do
      dial s contact
      send s .ended
  background (watchInterrupt s)
  takeMessages s running
  return .ok ()

def levelVariable : String := "NOISELINK_LOG"

def openLog (config : Config S) : IO (Except Log.SetupError (Log.Event → IO Unit)) := do
  let file ← config.logFile.mapM Machine.openLog
  let filter := Log.Filter.ofSetting (← IO.getEnv levelVariable)
  match Log.Logger.install none filter (file.map (·.map fun _ => ())) with
  | .error e => return .error e
  | .ok logger =>
    return .ok fun event => do
      if logger.filter.admits event.level then
        let entry := event.entry (← Machine.now)
        IO.println entry
        if let some (.ok handle) := file then
          handle.putStrLn entry
          handle.flush

def start (options : CommandLine.Options) : IO UInt32 := do
  match ← (Program.loadFrom (S := S) Machine.readFile? options).run with
  | .error e =>
    IO.eprintln e.complaint
    return UInt32.ofNat e.exitCode
  | .ok config =>
    match ← openLog config with
    | .error e =>
      IO.eprintln e.message
      return 1
    | .ok log =>
      match ← (runNode ⟨config, log, ← Std.Channel.new⟩).block with
      | .ok () => return 0
      | .error e =>
        log (Program.stoppedBy e)
        return 1

def halt (h : CommandLine.Halt) : IO UInt32 := do
  match h with
  | .refused => IO.eprintln h.text
  | .notice _ => IO.println h.text
  return UInt32.ofNat h.exitCode

end NoiseLink.Main

def main (args : List String) : IO UInt32 :=
  match NoiseLink.CommandLine.read (args.map fun arg => NoiseLink.Text.utf8 arg.toList) with
  | .ok options => NoiseLink.Main.start options
  | .error h => NoiseLink.Main.halt h
