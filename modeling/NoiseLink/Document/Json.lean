import NoiseLink.Decimal.Layout
import NoiseLink.Decimal.Natural
import NoiseLink.Decimal.Scaled
import NoiseLink.Document.Value
import NoiseLink.Text.Digit

namespace NoiseLink.Document.Json

def isBlank (c : Char) : Bool := c = ' ' || c = '\t' || c = '\n' || c = '\r'

def skip (s : List Char) : List Char := s.dropWhile isBlank

def escaped? : Char → Option Char
  | '"' => some '"'
  | '\\' => some '\\'
  | '/' => some '/'
  | 'b' => some '\x08'
  | 'f' => some '\x0c'
  | 'n' => some '\n'
  | 'r' => some '\r'
  | 't' => some '\t'
  | _ => none

def paired (high low : Nat) : Char := Char.ofNat (0x10000 + (high - 0xd800) * 0x400 + (low - 0xdc00))

/-- The rest of a text up to its closing quote; `high` is the first half of a pair that awaits its second. -/
def text (high : Option Nat) : List Char → Option (List Char × List Char)
  | '\\' :: 'u' :: a :: b :: c :: d :: rest =>
    match Text.hexNumber? [a, b, c, d], high with
    | none, _ => none
    | some n, some high =>
      if 0xdc00 ≤ n ∧ n < 0xe000 then (text none rest).map fun (s, rest) => (paired high n :: s, rest) else none
    | some n, none =>
      if 0xd800 ≤ n ∧ n < 0xdc00 then text (some n) rest
      else if 0xdc00 ≤ n ∧ n < 0xe000 then none
      else (text none rest).map fun (s, rest) => (Char.ofNat n :: s, rest)
  | '\\' :: e :: rest =>
    match escaped? e, high with
    | some c, none => (text none rest).map fun (s, rest) => (c :: s, rest)
    | _, _ => none
  | c :: rest =>
    if high.isSome || c < ' ' then none
    else if c = '"' then some ([], rest)
    else (text none rest).map fun (s, rest) => (c :: s, rest)
  | [] => none

def digits (s : List Char) : List Char × List Char := s.span (·.isDigit)

def fraction? : List Char → Option (Option (List Char) × List Char)
  | '.' :: rest =>
    let (ds, rest) := digits rest
    if ds.isEmpty then none else some (some ds, rest)
  | rest => some (none, rest)

def exponentDigits (negative : Bool) (s : List Char) : Option (Option Int × List Char) :=
  let (ds, rest) := digits s
  let e : Int := Decimal.ofDigits ds
  if ds.isEmpty then none else some (some (if negative then -e else e), rest)

def exponent? : List Char → Option (Option Int × List Char)
  | 'e' :: '-' :: rest | 'E' :: '-' :: rest => exponentDigits true rest
  | 'e' :: '+' :: rest | 'E' :: '+' :: rest => exponentDigits false rest
  | 'e' :: rest | 'E' :: rest => exponentDigits false rest
  | rest => some (none, rest)

def float (negative : Bool) (whole fraction : List Char) (e : Int) : Option Value :=
  (Decimal.approximate? whole fraction e).map fun x => .float (if negative then -x else x)

def number (negative : Bool) (s : List Char) : Option (Value × List Char) := do
  let (whole, rest) := digits s
  if whole.isEmpty || (whole.length > 1 && whole.head? = some '0') then none
  let (fraction, rest) ← fraction? rest
  let (exponent, rest) ← exponent? rest
  let n := Decimal.ofDigits whole
  let isWhole := fraction.isNone && exponent.isNone
  if isWhole && negative && 0 < n && n ≤ Decimal.signedBound then return (.integer (-n), rest)
  else if isWhole && !negative && n < UInt64.size then return (.integer n, rest)
  else return (← float negative whole (fraction.getD []) (exponent.getD 0), rest)

def depthLimit : Nat := 127

mutual

/-- A value; every value, item and entry takes one unit of fuel, and at least one character. -/
def value : (fuel depth : Nat) → List Char → Option (Value × List Char)
  | 0, _, _ => none
  | fuel + 1, depth, s =>
    match skip s with
    | 'n' :: 'u' :: 'l' :: 'l' :: rest => some (.null, rest)
    | 't' :: 'r' :: 'u' :: 'e' :: rest => some (.bool true, rest)
    | 'f' :: 'a' :: 'l' :: 's' :: 'e' :: rest => some (.bool false, rest)
    | '"' :: rest => (text none rest).map fun (s, rest) => (.text (String.ofList s), rest)
    | '[' :: rest =>
      match depth, skip rest with
      | 0, _ => none
      | _, ']' :: rest => some (.array [], rest)
      | depth + 1, rest => (items fuel depth rest).map fun (vs, rest) => (.array vs, rest)
    | '{' :: rest =>
      match depth, skip rest with
      | 0, _ => none
      | _, '}' :: rest => some (.table [], rest)
      | depth + 1, rest =>
        (members fuel depth rest).map fun (es, rest) =>
          (.table (es.foldl (fun t (k, v) => insertEntry k v t) []), rest)
    | '-' :: rest => number true rest
    | rest => number false rest

def items : (fuel depth : Nat) → List Char → Option (List Value × List Char)
  | 0, _, _ => none
  | fuel + 1, depth, s => do
    let (v, rest) ← value fuel depth s
    match skip rest with
    | ',' :: rest =>
      let (vs, rest) ← items fuel depth rest
      return (v :: vs, rest)
    | ']' :: rest => return ([v], rest)
    | _ => none

def members : (fuel depth : Nat) → List Char → Option (List (String × Value) × List Char)
  | 0, _, _ => none
  | fuel + 1, depth, s => do
    let '"' :: rest := skip s | none
    let (name, rest) ← text none rest
    let ':' :: rest := skip rest | none
    let (v, rest) ← value fuel depth rest
    match skip rest with
    | ',' :: rest =>
      let (es, rest) ← members fuel depth rest
      return ((String.ofList name, v) :: es, rest)
    | '}' :: rest => return ([(String.ofList name, v)], rest)
    | _ => none

end

def parse (s : String) : Option Value :=
  let cs := s.toList
  match value (cs.length + 1) depthLimit cs with
  | some (v, rest) => if (skip rest).isEmpty then some v else none
  | none => none

def unitText (n : Nat) : String :=
  "\\u" ++ String.ofList ([n / 4096, n / 256 % 16, n / 16 % 16, n % 16].map Nat.digitChar)

def escape (c : Char) : String :=
  match c with
  | '"' => "\\\""
  | '\\' => "\\\\"
  | '\n' => "\\n"
  | '\r' => "\\r"
  | '\t' => "\\t"
  | c => if c < ' ' then unitText c.toNat else c.toString

def quote (s : String) : String := "\"" ++ String.join (s.toList.map escape) ++ "\""

mutual

def print : Value → String
  | .null => "null"
  | .bool b => if b then "true" else "false"
  | .integer i => toString i
  | .float x => Decimal.interchange x
  | .text s => quote s
  | .array vs => "[" ++ ",".intercalate (printItems vs) ++ "]"
  | .table es => "\x7b" ++ ",".intercalate (printEntries es) ++ "\x7d"

def printItems : List Value → List String
  | [] => []
  | v :: rest => print v :: printItems rest

def printEntries : List (String × Value) → List String
  | [] => []
  | (name, v) :: rest => (quote name ++ ":" ++ print v) :: printEntries rest

end

end NoiseLink.Document.Json
