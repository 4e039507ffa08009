import NoiseLink.Decimal.Natural
import NoiseLink.Decimal.Scientific
import NoiseLink.Document.Toml.Table

namespace NoiseLink.Document.Toml

def moreDigits (isDigit : Char → Bool) : Reads (List Char)
  | '_' :: c :: rest => if isDigit c then cons? (some c) (moreDigits isDigit rest) else none
  | ['_'] => none
  | c :: rest => if isDigit c then cons? (some c) (moreDigits isDigit rest) else some ([], c :: rest)
  | [] => some ([], [])

def digits (isDigit : Char → Bool) : Reads (List Char)
  | c :: rest => if isDigit c then cons? (some c) (moreDigits isDigit rest) else none
  | [] => none

def whole : Reads (List Char)
  | '0' :: rest => some (['0'], rest)
  | s => digits Char.isDigit s

def number? (base : Nat) (ds : List Char) : Option Nat := do
  let vs ← ds.mapM Text.hexValue?
  return vs.foldl (fun n d => base * n + d) 0

def below (base : Nat) (c : Char) : Bool :=
  match Text.hexValue? c with
  | some v => v < base
  | none => false

def based (base : Nat) (s : List Char) : Option (Value × List Char) := do
  let (ds, rest) ← digits (below base) s
  let n ← number? base ds
  if n < Decimal.signedBound then return (.integer n, rest) else none

def signed (negative : Bool) (x : Float) : Float := if negative then -x else x

def exponentOf (negative : Bool) (s : List Char) : Option (Int × List Char) := do
  let (ds, rest) ← digits Char.isDigit s
  let n := Decimal.ofDigits ds
  return (if negative then -n else n, rest)

def exponent? : List Char → Option (Option Int × List Char)
  | c :: rest =>
    if c = 'e' || c = 'E' then
      let r := match rest with
        | '-' :: rest => exponentOf true rest
        | '+' :: rest => exponentOf false rest
        | rest => exponentOf false rest
      r.map fun (e, rest) => (some e, rest)
    else some (none, c :: rest)
  | [] => some (none, [])

/-- A number that is too large is refused above zero and infinite below it. -/
def float (negative : Bool) (ds : List Char) (e : Int) : Option Value :=
  let x := Decimal.scientific (Decimal.ofDigits ds) e
  if x.isFinite || negative then some (.float (signed negative x)) else none

def integer (negative : Bool) (n : Nat) : Option Value :=
  if negative then if n ≤ Decimal.signedBound then some (.integer (-n)) else none
  else if n < Decimal.signedBound then some (.integer n) else none

def decimal (negative : Bool) : Reads Value
  | 'i' :: 'n' :: 'f' :: rest => some (.float (signed negative (1 / 0)), rest)
  | 'n' :: 'a' :: 'n' :: rest => some (.float (0 / 0), rest)
  | s => do
    let (ds, rest) ← whole s
    match rest with
    | '.' :: rest =>
      let (fs, rest) ← digits Char.isDigit rest
      let (e, rest) ← exponent? rest
      return (← float negative (ds ++ fs) (e.getD 0 - fs.length), rest)
    | rest =>
      match ← exponent? rest with
      | (some e, rest) => return (← float negative ds e, rest)
      | (none, rest) => return (← integer negative (Decimal.ofDigits ds), rest)

def number : Reads Value
  | '+' :: rest => decimal false rest
  | '-' :: rest => decimal true rest
  | '0' :: 'x' :: rest => based 16 rest
  | '0' :: 'o' :: rest => based 8 rest
  | '0' :: 'b' :: rest => based 2 rest
  | s => decimal false s

def scalar (s : List Char) : Option (Item × List Char) :=
  if startsMoment s then (moment s).map fun (t, rest) => (.moment t, rest)
  else (number s).map fun (v, rest) => (.scalar v, rest)

end NoiseLink.Document.Toml
