import NoiseLink.Key
import NoiseLink.Log.Event
import NoiseLink.Peer.Error

namespace NoiseLink

inductive Status (S : Suite) where
  | listenerShutdown (e : PeerError)
  | dialFailed (address : String) (e : PeerError)
  | connected (address : String) (node : S.Point)
  | handshakeFailed (address : String) (e : PeerError)
  | disconnected (address : String) (e : Option PeerError)

namespace Status

variable {S : Suite}

def stops : Status S → Bool
  | listenerShutdown _ => true
  | _ => false

def label : Status S → String
  | listenerShutdown _ => "ListenerShutdown"
  | dialFailed _ _ => "DialFailed"
  | connected _ _ => "Connected"
  | handshakeFailed _ _ => "HandshakeFailed"
  | disconnected _ _ => "Disconnected"

def level : Status S → Log.Level
  | listenerShutdown _ | disconnected _ (some (.connectionAborted _)) => .error
  | dialFailed _ _ | handshakeFailed _ _ | disconnected _ (some _) => .warn
  | connected _ _ | disconnected _ none => .info

def text : Status S → String
  | listenerShutdown e => "SHUTDOWN from listener: " ++ e.message
  | dialFailed address e => "Could not dial " ++ address ++ ": " ++ e.message
  | connected address node => "Connected to " ++ S.point.print node ++ " at " ++ address
  | handshakeFailed address e => "Handshake with " ++ address ++ " failed: " ++ e.message
  | disconnected address (some (.connectionAborted e)) =>
    "Connection with " ++ address ++ " aborted: " ++ (PeerError.connectionAborted e).message
  | disconnected address (some e) => "Disconnected from " ++ address ++ ": " ++ e.message
  | disconnected address none => "Peer " ++ address ++ " closed the connection"

def event (s : Status S) : Log.Event := ⟨s.level, "peer_bolt8::status", s.text⟩

end Status
end NoiseLink
