import NoiseLink.Suite
import NoiseLink.Text.Blank
import NoiseLink.Text.Hex

namespace NoiseLink

inductive KeyError where
  | hex (e : Text.Hex.Error)
  | length (expected actual : Nat)
  | malformed (kind : KeyKind)
  deriving DecidableEq, Repr

def KeyKind.malformedText : KeyKind → String
  | .secret => "malformed or out-of-range secret key"
  | .point => "malformed public key"

def KeyError.message : KeyError → String
  | .hex e => "Hex decode error: " ++ e.message
  | .length expected actual => s!"Bad key length: expected {expected} bytes, found {actual}"
  | .malformed kind => "Secp256k1 error: " ++ kind.malformedText

def KeyError.label : KeyError → String
  | .hex _ => "Hex"
  | .length _ _ => "KeyLength"
  | .malformed _ => "Secp256k1"

namespace KeyCodec

variable {K : Type} (codec : KeyCodec K)

def ofBytes (b : Bytes) : Except KeyError K :=
  if b.length = codec.size then
    match codec.decode b with
    | some k => .ok k
    | none => .error (.malformed codec.kind)
  else .error (.length codec.size b.length)

def parse (text : String) : Except KeyError K :=
  match Text.Hex.decode (Text.utf8 (Text.trim text.toList)) with
  | .ok b => codec.ofBytes b
  | .error e => .error (.hex e)

def print (k : K) : String := Text.Hex.print (codec.encode k)

end KeyCodec
end NoiseLink
