import NoiseLink.Bytes

namespace NoiseLink

inductive Act where
  | one
  | two
  | three
  deriving DecidableEq, Repr

inductive Stage where
  | actOne
  | actTwo
  | actThreeStaticKey
  | actThree
  | recordLength
  | recordBody
  deriving DecidableEq, Repr

inductive NoiseError where
  | unsupportedVersion (act : Act) (version : UInt8)
  | invalidPublicKey (act : Act)
  | authenticationFailed (stage : Stage)
  | invalidMessageLength (expected actual : Nat)
  | messageTooLarge (size : Nat)
  | nonceExhausted
  | keyErased
  | handshakeAborted
  | unexpectedHandshakeMessage
  | invalidRawPublicKey
  | invalidRawPrivateKey
  | aead
  deriving DecidableEq, Repr

def maxMessageSize : Nat := 65535

def Act.label : Act → String
  | .one => "ACT1"
  | .two => "ACT2"
  | .three => "ACT3"

def Stage.label : Stage → String
  | .actOne => "ACT1_BAD_TAG"
  | .actTwo => "ACT2_BAD_TAG"
  | .actThreeStaticKey => "ACT3_BAD_CIPHERTEXT"
  | .actThree => "ACT3_BAD_TAG"
  | .recordLength => "BAD_LENGTH_TAG"
  | .recordBody => "BAD_BODY_TAG"

namespace NoiseError

def message : NoiseError → String
  | unsupportedVersion act version => act.label ++ "_BAD_VERSION " ++ toString version.toNat
  | invalidPublicKey act => act.label ++ "_BAD_PUBKEY"
  | authenticationFailed stage => stage.label
  | invalidMessageLength expected actual =>
    "invalid message length: expected " ++ toString expected ++ ", got " ++ toString actual
  | messageTooLarge size =>
    "message too large: " ++ toString size ++ " bytes (max " ++ toString maxMessageSize ++ ")"
  | nonceExhausted => "nonce exhausted"
  | keyErased => "transport key erased"
  | handshakeAborted => "handshake aborted"
  | unexpectedHandshakeMessage => "handshake act out of order"
  | invalidRawPublicKey => "invalid raw public key"
  | invalidRawPrivateKey => "invalid raw private key"
  | aead => "aead error: aead::Error"

def label : NoiseError → String
  | unsupportedVersion _ _ => "UnsupportedVersion"
  | invalidPublicKey _ => "InvalidPublicKey"
  | authenticationFailed _ => "AuthenticationFailed"
  | invalidMessageLength _ _ => "InvalidMessageLength"
  | messageTooLarge _ => "MessageTooLarge"
  | nonceExhausted => "NonceExhausted"
  | keyErased => "KeyErased"
  | handshakeAborted => "HandshakeAborted"
  | unexpectedHandshakeMessage => "UnexpectedHandshakeMessage"
  | invalidRawPublicKey => "InvalidRawPublicKey"
  | invalidRawPrivateKey => "InvalidRawPrivateKey"
  | aead => "Aead"

/-- A failure of the cipher is a failed authentication of the text being opened. -/
def inStage (stage : Stage) : NoiseError → NoiseError
  | aead => authenticationFailed stage
  | e => e

/-- Failures that only a misbehaving peer can cause. -/
def isAuthenticationFailure : NoiseError → Bool
  | authenticationFailed _ | unsupportedVersion _ _ | invalidPublicKey _ => true
  | _ => false

end NoiseError

def Stage.isRecord : Stage → Bool
  | .recordLength | .recordBody => true
  | _ => false

end NoiseLink
