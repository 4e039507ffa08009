import NoiseLink.Document.Reading
import NoiseLink.Peer.Error
import NoiseLink.Peer.Handler

namespace NoiseLink

structure Contact (S : Suite) where
  address : String
  node : S.Point

structure Config (S : Suite) where
  listen : Option String
  secret : S.Secret
  timeout : Duration
  limit : Nat
  contacts : List (Contact S)
  greeting : Option String
  logFile : Option Bytes

inductive ConfigFault where
  | limit (size : Nat)
  | timeout
  | nothingToDo
  deriving DecidableEq, Repr

def ConfigFault.message : ConfigFault → String
  | limit size => "max_message_size " ++ toString size ++ " exceeds " ++ toString maxMessageSize
  | timeout => "handshake_timeout must not be zero"
  | nothingToDo => "nothing to do: set listen_address or at least one peer"

namespace Config

variable {S : Suite}

def defaultTimeout : Duration := ⟨10, 0⟩

def new (secret : S.Secret) : Config S := ⟨none, secret, defaultTimeout, maxMessageSize, [], none, none⟩

def fault? (c : Config S) : Option ConfigFault :=
  if c.limit > maxMessageSize then some (.limit c.limit)
  else if c.timeout.isZero then some .timeout
  else if c.listen.isNone && c.contacts.isEmpty then some .nothingToDo
  else none

def validate (c : Config S) : Except PeerError Unit :=
  match c.fault? with
  | some fault => .error (.badConfiguration fault.message)
  | none => .ok ()

def nodeId (c : Config S) : S.Point := S.publicKey c.secret

def settings (c : Config S) : Settings := ⟨c.timeout, c.limit, c.greeting⟩

def addContact (c : Config S) (contact : Contact S) : Config S := { c with contacts := c.contacts ++ [contact] }

def setLogFile (c : Config S) (path : Option Bytes) : Config S :=
  match path with
  | some path => { c with logFile := some path }
  | none => c

end Config

open Document in
def Contact.read {S : Suite} (src : Source) (s : Setting) : Except ReadError (Contact S) := do
  let (address, node) ← src.pair "PeerAddress" "address" "node_id" src.text (src.key S.point) s
  return ⟨address, node⟩

open Document in
/-- Reads the known fields, in the order of their names; others are passed over. Only the secret has no default. -/
def Config.read {S : Suite} (src : Source) (s : Setting) : Except ReadError (Config S) := do
  let greeting ← Source.optional src.text "greeting" s
  let timeout ← Source.optional (Duration.read src) "handshake_timeout" s
  let listen ← Source.optional src.text "listen_address" s
  let logFile ← Source.optional src.text "log_file" s
  let limit ← Source.optional src.natural "max_message_size" s
  let contacts ← Source.optional (src.list (Contact.read src)) "peers" s
  let some secret ← Source.optional (src.key S.secret) "static_secret_key" s | throw (.missing "static_secret_key")
  return {
    listen
    secret
    timeout := timeout.getD defaultTimeout
    limit := limit.getD maxMessageSize
    contacts := contacts.getD []
    greeting
    logFile := logFile.map fun path => Text.utf8 path.toList
  }

end NoiseLink
