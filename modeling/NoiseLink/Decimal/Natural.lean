namespace NoiseLink.Decimal

def ofDigits (digits : List Char) : Nat := digits.foldl (fun n c => 10 * n + (c.toNat - '0'.toNat)) 0

def signedBound : Nat := UInt64.size / 2

def natural? (bound : Nat) (text : String) : Option Nat :=
  let digits := match text.toList with
    | '+' :: rest => rest
    | all => all
  if digits.isEmpty || digits.any (!·.isDigit) then none
  else
    let n := ofDigits digits
    if n < bound then some n else none

end NoiseLink.Decimal
