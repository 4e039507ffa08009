import NoiseLink.Decimal.Shortest

namespace NoiseLink.Decimal

def pointed (digits : String) (places : Int) : String :=
  if places ≤ 0 then "0." ++ String.ofList (List.replicate (-places).toNat '0') ++ digits
  else if digits.length ≤ places.toNat then digits ++ String.ofList (List.replicate (places.toNat - digits.length) '0')
  else String.ofList (digits.toList.take places.toNat) ++ "." ++ String.ofList (digits.toList.drop places.toNat)

inductive Parts where
  | notANumber
  | infinite (negative : Bool)
  | finite (negative : Bool) (digits : String) (places : Int)

def parts (tie : Tie) (x : Float) : Parts :=
  let bits := x.toBits.toNat
  let negative := fractions * scales ≤ bits
  if bits / fractions % scales = scales - 1 then if bits % fractions = 0 then .infinite negative else .notANumber
  else
    let b := Binary.ofBits bits
    if b.mantissa = 0 then .finite negative "0" 1
    else
      let d := shortest tie b
      let digits := toString d.digits
      .finite negative digits (digits.length + d.exponent)

def sign (negative : Bool) : String := if negative then "-" else ""

def plain (x : Float) : String :=
  match parts .upper x with
  | .notANumber => "NaN"
  | .infinite negative => sign negative ++ "inf"
  | .finite negative digits places => sign negative ++ pointed digits places

def withPoint (x : Float) : String :=
  match parts .upper x with
  | .finite negative digits places =>
    let text := pointed digits places
    sign negative ++ text ++ if text.contains '.' then "" else ".0"
  | _ => plain x

def interchange (x : Float) : String :=
  match parts .even x with
  | .finite negative digits places =>
    let text :=
      if -5 < places ∧ places ≤ 16 then
        let text := pointed digits places
        text ++ if text.contains '.' then "" else ".0"
      else
        let rest := String.ofList (digits.toList.drop 1)
        let exponent := (if places < 1 then "" else "+") ++ toString (places - 1)
        String.ofList (digits.toList.take 1) ++ (if rest.isEmpty then "" else "." ++ rest) ++ "e" ++ exponent
    sign negative ++ text
  | _ => plain x

end NoiseLink.Decimal
