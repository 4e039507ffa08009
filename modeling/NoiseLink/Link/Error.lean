import NoiseLink.Noise.Error

namespace NoiseLink

inductive LinkError where
  | missingBytes (size : Nat)
  | noise (e : NoiseError)
  | truncatedRecord (expected received : Nat)
  | unexpectedState
  | messageTooLarge (size : Nat)
  deriving DecidableEq, Repr

namespace LinkError

def message : LinkError → String
  | missingBytes size => "Missing `" ++ toString size ++ "` bytes"
  | noise e => "Noise error: " ++ e.message
  | truncatedRecord expected received =>
    "Stream ended mid-record: expected `" ++ toString expected ++ "` bytes, received `" ++ toString received ++ "`"
  | unexpectedState => "Noise state is incorrect"
  | messageTooLarge size => "Message of `" ++ toString size ++ "` bytes is too large"

def label : LinkError → String
  | missingBytes _ => "MissingBytes"
  | noise e => "Noise." ++ e.label
  | truncatedRecord _ _ => "TruncatedRecord"
  | unexpectedState => "UnexpectedNoiseState"
  | messageTooLarge _ => "MessageTooLarge"

def isFatal : LinkError → Bool
  | missingBytes _ => false
  | _ => true

/-- The error comes from a failed handshake and not from an established connection. -/
def isHandshakeFailure : LinkError → Bool
  | noise (.authenticationFailed stage) => !stage.isRecord
  | noise (.unsupportedVersion _ _) | noise (.invalidPublicKey _) | noise .handshakeAborted
  | noise .unexpectedHandshakeMessage | noise (.invalidMessageLength _ _) => true
  | _ => false

end LinkError
end NoiseLink
