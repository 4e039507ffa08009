namespace NoiseLink.Decimal

/-- A finite positive binary number `mantissa * 2 ^ exponent`; `edge` marks one whose lower neighbour is closer. -/
structure Binary where
  mantissa : Nat
  exponent : Int
  edge : Bool

structure Digits where
  digits : Nat
  exponent : Int
  deriving DecidableEq, Repr

def fractions : Nat := 0x10000000000000

def scales : Nat := 2048

def Binary.ofBits (bits : Nat) : Binary :=
  let fraction : Nat := bits % fractions
  let scale : Nat := bits / fractions % scales
  if scale = 0 then ⟨fraction, -1074, false⟩
  else ⟨fractions + fraction, (scale : Int) - 1075, fraction = 0 ∧ scale ≠ 1⟩

def digitCount (n : Nat) : Nat := (Nat.toDigits 10 n).length

def magnitude (num den : Nat) : Int :=
  if den ≤ num then (digitCount (num / den) : Int) - 1
  else
    let j := digitCount (den / num) - 1
    if den ≤ num * Nat.pow 10 j then -(j : Int) else -(j + 1 : Int)

def overPower (n d : Nat) (e : Int) : Nat × Nat :=
  if 0 ≤ e then (n, d * Nat.pow 10 e.toNat) else (n * Nat.pow 10 (-e).toNat, d)

inductive Tie where
  | upper
  | even
  deriving DecidableEq, Repr

def Tie.takesLower (tie : Tie) (lower : Nat) : Ordering → Bool
  | .lt => true
  | .eq => tie = .even ∧ lower % 2 = 0
  | .gt => false

/-- A multiple of `10 ^ e` that reads back as the number, of two the nearer one, or else the one that `tie` says. -/
def onGrid (tie : Tie) (b : Binary) (num den : Nat) (e : Int) : Option Digits :=
  let unit := num / (4 * b.mantissa)
  let low := if b.edge then unit else 2 * unit
  let high := 2 * unit
  let (value, one) := overPower num den e
  let low := value - (overPower low den e).1
  let high := value + (overPower high den e).1
  let even := b.mantissa % 2 = 0
  let fits (d : Nat) : Bool := (low < d * one || (even && low = d * one)) && (d * one < high || (even && d * one = high))
  let d := value / one
  match fits d, fits (d + 1) with
  | true, true => some (if tie.takesLower d (compare (2 * (value - d * one)) one) then ⟨d, e⟩ else ⟨d + 1, e⟩)
  | true, false => some ⟨d, e⟩
  | false, true => some ⟨d + 1, e⟩
  | false, false => none

def Digits.strip (fuel : Nat) (d : Digits) : Digits :=
  match fuel with
  | 0 => d
  | fuel + 1 => if d.digits ≠ 0 ∧ d.digits % 10 = 0 then strip fuel ⟨d.digits / 10, d.exponent + 1⟩ else d

def shortest (tie : Tie) (b : Binary) : Digits :=
  let num := 4 * b.mantissa * Nat.pow 2 (b.exponent - 2).toNat
  let den := Nat.pow 2 (2 - b.exponent).toNat
  let top := magnitude num den
  let hit := (List.range 17).findSome? fun (n : Nat) => onGrid tie b num den (top - n)
  (hit.getD ⟨0, 0⟩).strip 400

end NoiseLink.Decimal
