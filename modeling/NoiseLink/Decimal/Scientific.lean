namespace NoiseLink.Decimal

def scientific (m : Nat) (e : Int) : Float :=
  let size : Int := (toString m).length + e
  if m = 0 || size < -330 then 0
  else if size > 310 then 1 / 0
  else if e < 0 then Float.ofScientific m true (-e).toNat
  else Float.ofScientific m false e.toNat

end NoiseLink.Decimal
