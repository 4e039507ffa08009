import NoiseLink.Decimal.Natural
import NoiseLink.Decimal.Scientific

namespace NoiseLink.Decimal

/-- Appends digits to a number as long as it fits into 64 bits; the digits that are left come second. -/
def leading (m : Nat) : List Char → Nat × List Char
  | [] => (m, [])
  | c :: rest =>
    let n := ofDigits [c] + 10 * m
    if n < UInt64.size then leading n rest else (m, c :: rest)

def longestStep : Nat := 308

def power (e : Nat) : Float := scientific 1 e

def scaled? (m : Nat) (e : Int) : Option Float :=
  let x := (UInt64.ofNat m).toFloat
  if m = 0 then some 0
  else if longestStep < e then none
  else if 0 ≤ e then
    let y := x * power e.toNat
    if y.isFinite then some y else none
  else
    let n := e.natAbs
    if n ≤ longestStep then some (x / power n)
    else if n ≤ 2 * longestStep then some (x / power longestStep / power (n - longestStep))
    else some 0

def approximate? (whole fraction : List Char) (e : Int) : Option Float :=
  let (m, more) := leading 0 whole
  let (m, rest) := leading m fraction
  scaled? m (e + more.length - (fraction.length - rest.length : Nat))

end NoiseLink.Decimal
