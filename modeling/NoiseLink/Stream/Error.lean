import NoiseLink.Link.Error
import NoiseLink.SystemError

namespace NoiseLink

inductive StreamError where
  | link (e : LinkError)
  | channelReceive
  | channelSend
  | socketClosed
  | system (kind : ErrorKind)
  deriving DecidableEq, Repr

namespace StreamError

/-- Ends of a connection seen by the system count as the peer closing it. -/
def ofKind : ErrorKind → StreamError
  | .unexpectedEof | .connectionReset | .connectionAborted | .brokenPipe => socketClosed
  | kind => system kind

def message : StreamError → String
  | link e => e.message
  | channelReceive => "Channel receive failed"
  | channelSend => "Channel send failed"
  | socketClosed => "Socket closed by peer"
  | system kind => "I/O error: " ++ kind.description

def label : StreamError → String
  | link e => "Codec." ++ e.label
  | channelReceive => "RecvError"
  | channelSend => "SendError"
  | socketClosed => "SocketClosed"
  | system _ => "Io"

/-- A failed handshake or record, as opposed to an ordinary end of the connection. -/
def isProtocolFailure : StreamError → Bool
  | link (.truncatedRecord _ _) => false
  | link e => e.isFatal
  | _ => false

def isHandshakeFailure : StreamError → Bool
  | link e => e.isHandshakeFailure
  | _ => false

end StreamError
end NoiseLink
