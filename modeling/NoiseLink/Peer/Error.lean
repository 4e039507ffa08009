import NoiseLink.Duration
import NoiseLink.Stream.Error

namespace NoiseLink

inductive PeerError where
  | system (e : SystemError)
  | network (e : StreamError)
  /-- The remote failed authentication or sent a malformed act. -/
  | handshakeFailed (e : StreamError)
  | handshakeTimeout (limit : Duration)
  /-- An established connection broke the protocol. -/
  | connectionAborted (e : StreamError)
  | channelReceive
  | badConfiguration (reason : String)
  | badArguments
  deriving DecidableEq, Repr

namespace PeerError

def ofHandshake (e : StreamError) : PeerError := if e.isHandshakeFailure then handshakeFailed e else network e

def ofTransport (e : StreamError) : PeerError := if e.isProtocolFailure then connectionAborted e else network e

def message : PeerError → String
  | system e => "I/O error: `" ++ e.detail ++ "`"
  | network e => "Network error: `" ++ e.message ++ "`"
  | handshakeFailed e => "Handshake failed: `" ++ e.message ++ "`"
  | handshakeTimeout limit => "Handshake timed out after " ++ limit.print
  | connectionAborted e => "Connection aborted: `" ++ e.message ++ "`"
  | channelReceive => "Channel recv failed: `RecvError`"
  | badConfiguration reason => "Bad configuration: " ++ reason
  | badArguments => "Bad CLI arg input"

def label : PeerError → String
  | system _ => "Io"
  | network e => "Network." ++ e.label
  | handshakeFailed e => "HandshakeFailed." ++ e.label
  | handshakeTimeout _ => "HandshakeTimeout"
  | connectionAborted e => "ConnectionAborted." ++ e.label
  | channelReceive => "ChannelRecv"
  | badConfiguration _ => "BadConfig"
  | badArguments => "BadCliArgs"

end PeerError
end NoiseLink
