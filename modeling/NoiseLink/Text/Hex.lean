import NoiseLink.Bytes
import NoiseLink.Text.Quoted

namespace NoiseLink.Text

def utf8 (s : List Char) : Bytes := s.flatMap String.utf8EncodeChar

namespace Hex

inductive Error where
  | oddLength
  | notDigit (byte : UInt8) (position : Nat)
  deriving DecidableEq, Repr

def Error.message : Error → String
  | .oddLength => "Odd number of digits"
  | .notDigit byte position => "Invalid character " ++ quoteChar (Char.ofNat byte.toNat) ++ " at position " ++ toString position

def digit (n : Nat) : Char := Nat.digitChar n

def encodeByte (b : UInt8) : List Char := [digit (b.toNat / 16), digit (b.toNat % 16)]

def encode (b : Bytes) : List Char := b.flatMap encodeByte

def print (b : Bytes) : String := String.ofList (encode b)

def value? (c : UInt8) : Option Nat :=
  let n := c.toNat
  if 48 ≤ n ∧ n ≤ 57 then some (n - 48)
  else if 97 ≤ n ∧ n ≤ 102 then some (n - 87)
  else if 65 ≤ n ∧ n ≤ 70 then some (n - 55)
  else none

def decodeDigit (c : UInt8) (position : Nat) : Except Error Nat :=
  match value? c with
  | some v => .ok v
  | none => .error (.notDigit c position)

def decodePairs (position : Nat) : Bytes → Except Error Bytes
  | [] => .ok []
  | [_] => .error .oddLength
  | a :: b :: rest => do
    let high ← decodeDigit a position
    let low ← decodeDigit b (position + 1)
    let tail ← decodePairs (position + 2) rest
    return UInt8.ofNat (16 * high + low) :: tail

def decode (text : Bytes) : Except Error Bytes :=
  if text.length % 2 = 1 then .error .oddLength else decodePairs 0 text

end Hex
end NoiseLink.Text
