import NoiseLink.Log.Stamp
import NoiseLink.Peer.Address
import NoiseLink.Suite
import NoiseLink.Text.Utf8
import Std.Async.DNS
import Std.Async.TCP

namespace NoiseLink.Machine

open Std.Async

/-- The number by which the system names an error, if it has one. Sockets give it with a minus sign. -/
def number? : IO.Error → Option Nat
  | .alreadyExists _ n _ | .otherError n _ | .resourceBusy n _ | .resourceVanished n _ | .unsupportedOperation n _
  | .hardwareFault n _ | .unsatisfiedConstraints n _ | .illegalOperation n _ | .protocolError n _ | .timeExpired n _
  | .interrupted _ n _ | .noFileOrDirectory _ n _ | .invalidArgument _ n _ | .permissionDenied _ n _
  | .resourceExhausted _ n _ | .inappropriateType _ n _ | .noSuchThing _ n _ =>
    some (if n < 0x80000000 then n.toNat else (0 - n).toNat)
  | .unexpectedEof | .userError _ => none

def systemError (e : IO.Error) : SystemError :=
  ((number? e).bind SystemError.ofNumber?).getD (.described .other (toString e))

def readFile? (path : Bytes) : IO (Option Bytes) := do
  let some path := Text.ofUtf8? path | return none
  try
    return some (← IO.FS.readBinFile path).toList
  catch _ => return none

def openLog (path : Bytes) : IO (Except SystemError IO.FS.Handle) := do
  try
    return .ok (← IO.FS.Handle.mk (Text.lossy path) .append)
  catch e => return .error (systemError e)

def now : IO Nat := do return (← Std.Time.Timestamp.now).toNanosecondsSinceUnixEpoch.val.toNat / 1000

partial def freshSecret (S : Suite) : IO S.Secret := do
  match S.secret.decode (← IO.getRandomBytes (USize.ofNat S.secret.size)).toList with
  | some secret => return secret
  | none => freshSecret S

def address (host : Std.Net.IPAddr) (port : Nat) : Std.Net.SocketAddress :=
  match host with
  | .v4 addr => .v4 ⟨addr, UInt16.ofNat port⟩
  | .v6 addr => .v6 ⟨addr, UInt16.ofNat port⟩

def resolve : Endpoint → Async (List Std.Net.SocketAddress)
  | .numeric ⟨.v4 octets, port⟩ =>
    return [address (.v4 ⟨Vector.ofFn fun i => UInt8.ofNat (octets.getD i 0)⟩) port]
  | .numeric ⟨.v6 groups _, port⟩ =>
    return [address (.v6 ⟨Vector.ofFn fun i => UInt16.ofNat (groups.getD i 0)⟩) port]
  | .named host port => return (← DNS.getAddrInfo host "").toList.map (address · port)

def firstOf {α β : Type} (f : α → Async β) : List α → Async β
  | [] => throw (IO.userError "no address")
  | [a] => f a
  | a :: rest => do
    try f a catch _ => firstOf f rest

def listen (endpoint : Endpoint) : Async TCP.Socket.Server := do
  firstOf (fun addr => do
    let server ← TCP.Socket.Server.mk
    server.bind addr
    server.listen 1024
    return server) (← resolve endpoint)

def dial (endpoint : Endpoint) : Async TCP.Socket.Client := do
  firstOf (fun addr => do
    let client ← TCP.Socket.Client.mk
    client.connect addr
    return client) (← resolve endpoint)

end NoiseLink.Machine
