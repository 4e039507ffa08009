import NoiseLink.Bytes
import NoiseLink.Decimal.Natural
import NoiseLink.SystemError
import NoiseLink.Text.Digit

namespace NoiseLink

inductive Host where
  | v4 (octets : List Nat)
  | v6 (groups : List Nat) (scope : Nat)
  deriving DecidableEq, Repr

structure SocketAddress where
  host : Host
  port : Nat
  deriving DecidableEq, Repr

namespace Host

def octet? (digits : List Char) : Option Nat :=
  if digits.isEmpty || digits.length > 3 || digits.any (!·.isDigit) || (digits.length > 1 && digits.head? = some '0')
  then none
  else
    let n := Decimal.ofDigits digits
    if n < 256 then some n else none

def octets? (text : List Char) : Option (List Nat) := do
  let octets ← (text.splitOn '.').mapM octet?
  if octets.length = 4 then return octets else none

def group? (digits : List Char) : Option Nat := if digits.length > 4 then none else Text.hexNumber? digits

/-- Groups between colons; the last one may be four octets, which make two groups. -/
def groups? : List (List Char) → Option (List Nat)
  | [] => some []
  | [last] =>
    match octets? last with
    | some [a, b, c, d] => some [256 * a + b, 256 * c + d]
    | _ => (group? last).map ([·])
  | g :: rest => do return (← group? g) :: (← groups? rest)

def side? (text : List Char) : Option (List Nat) := if text.isEmpty then some [] else groups? (text.splitOn ':')

def splitGap : List Char → Option (List Char × List Char)
  | ':' :: ':' :: rest => some ([], rest)
  | c :: rest => (splitGap rest).map fun (before, after) => (c :: before, after)
  | [] => none

def v6Groups? (text : List Char) : Option (List Nat) :=
  match splitGap text with
  | none => do
    let groups ← side? text
    if groups.length = 8 then return groups else none
  | some (before, after) => do
    if before.contains '.' then none
    let first ← side? before
    let last ← side? after
    if first.length + last.length < 8 then
      return first ++ List.replicate (8 - first.length - last.length) 0 ++ last
    else none

def octal? (digits : List Char) : Option Nat := do
  let ds ← digits.mapM Text.hexValue?
  if ds.all (· < 8) then return ds.foldl (fun n d => 8 * n + d) 0 else none

/-- A part of an address in its older form: with octal digits after a zero, and hexadecimal ones after `0x`. -/
def part? : List Char → Option Nat
  | '0' :: 'x' :: digits | '0' :: 'X' :: digits => Text.hexNumber? digits
  | '0' :: digits => octal? digits
  | digits => if digits.isEmpty || digits.any (!·.isDigit) then none else some (Decimal.ofDigits digits)

/-- One to four parts, the last of which fills all the octets that are left. -/
def parts? (text : List Char) : Option (List Nat) := do
  let parts ← (text.splitOn '.').mapM part?
  let last ← parts.getLast?
  let first := parts.dropLast
  let rest := 4 - first.length
  if first.length < 4 && first.all (· < 256) && last < Bytes.count rest then
    return first ++ (Bytes.ofNatBE rest last).map UInt8.toNat
  else none

def scope? (text : List Char) : Option (List Char × Nat) :=
  let groups := text.takeWhile (· ≠ '%')
  match text.drop groups.length with
  | [] => some (groups, 0)
  | _ :: digits =>
    if digits.isEmpty || digits.any (!·.isDigit) then none
    else
      let n := Decimal.ofDigits digits
      if n < UInt32.size then some (groups, n) else none

def literal? (text : List Char) : Option Host :=
  match parts? text with
  | some octets => some (.v4 octets)
  | none => do
    let (groups, scope) ← scope? text
    return .v6 (← v6Groups? groups) scope

end Host

namespace SocketAddress

def port? (digits : List Char) : Option Nat :=
  if digits.isEmpty || digits.any (!·.isDigit) then none
  else
    let n := Decimal.ofDigits digits
    if n < UInt16.size then some n else none

def parse? (text : String) : Option SocketAddress :=
  match text.toList with
  | '[' :: rest => do
    let host := rest.takeWhile (· ≠ ']')
    let (text, scope) ← Host.scope? host
    let groups ← Host.v6Groups? text
    match rest.drop host.length with
    | ']' :: ':' :: digits => return ⟨.v6 groups scope, ← port? digits⟩
    | _ => none
  | text => do
    let host := text.takeWhile (· ≠ ':')
    let octets ← Host.octets? host
    match text.drop host.length with
    | ':' :: digits => return ⟨.v4 octets, ← port? digits⟩
    | _ => none

end SocketAddress

inductive Endpoint where
  | numeric (address : SocketAddress)
  | named (host : String) (port : Nat)
  deriving DecidableEq, Repr

def splitLastColon (text : List Char) : Option (List Char × List Char) :=
  let last := (text.reverse.takeWhile (· ≠ ':')).reverse
  if last.length = text.length then none else some (text.take (text.length - last.length - 1), last)

def Endpoint.parse (text : String) : Except SystemError Endpoint :=
  match SocketAddress.parse? text, splitLastColon text.toList with
  | some address, _ => .ok (.numeric address)
  | none, none => .error (.described .invalidInput "invalid socket address")
  | none, some (host, port) =>
    match Decimal.natural? UInt16.size (String.ofList port), Host.literal? host with
    | none, _ => .error (.described .invalidInput "invalid port value")
    | some port, some literal => .ok (.numeric ⟨literal, port⟩)
    | some port, none =>
      if host.contains '\x00' then .error .zeroInName else .ok (.named (String.ofList host) port)

/-- Whether one can listen there on every machine: on its loop, and on addresses of all or of groups of machines. -/
def areLocal (octets : List Nat) : Bool :=
  octets.head? = some 127 || octets.all (· = 0) || octets.all (· = 255) || octets.head?.any fun n => 224 ≤ n && n < 240

def Host.isLocal : Host → Bool
  | .v4 octets => areLocal octets
  | .v6 [0, 0, 0, 0, 0, 0xffff, high, low] _ => areLocal [high / 256, high % 256, low / 256, low % 256]
  | .v6 groups _ => groups.dropLast.all (· = 0) && groups.getLast?.all (· ≤ 1)

def Endpoint.isLocal : Endpoint → Bool
  | .numeric address => address.host.isLocal
  | .named host _ => host = "localhost"

end NoiseLink
