import NoiseLink.Decimal.Natural
import NoiseLink.Document.Toml.Text

namespace NoiseLink.Document.Toml

def fixed (n : Nat) (s : List Char) : Option (Nat × List Char) :=
  let ds := s.take n
  if ds.length = n && ds.all Char.isDigit then some (Decimal.ofDigits ds, s.drop n) else none

def within (low high n : Nat) : Reads Nat := fun s => do
  let (v, rest) ← fixed n s
  if low ≤ v && v ≤ high then return (v, rest) else none

def sign (c : Char) : Reads Unit
  | d :: rest => if c = d then some ((), rest) else none
  | [] => none

def daysIn (year month : Nat) : Nat :=
  if month = 2 then if year % 4 = 0 && (year % 100 ≠ 0 || year % 400 = 0) then 29 else 28
  else if month ∈ [4, 6, 9, 11] then 30
  else 31

def padded (width n : Nat) : String :=
  let s := toString n
  String.ofList (List.replicate (width - s.length) '0') ++ s

def date : Reads String := fun s => do
  let (year, s) ← fixed 4 s
  let (_, s) ← sign '-' s
  let (month, s) ← within 1 12 2 s
  let (_, s) ← sign '-' s
  let (day, s) ← within 1 (daysIn year month) 2 s
  return (padded 4 year ++ "-" ++ padded 2 month ++ "-" ++ padded 2 day, s)

def secondFraction : List Char → Option (String × List Char)
  | '.' :: s =>
    let ds := s.takeWhile Char.isDigit
    let kept := ((ds.take 9).reverse.dropWhile (· = '0')).reverse
    if ds.isEmpty then none
    else some (if kept.isEmpty then "" else "." ++ String.ofList kept, s.drop ds.length)
  | s => some ("", s)

def time : Reads String := fun s => do
  let (hour, s) ← within 0 23 2 s
  let (_, s) ← sign ':' s
  let (minute, s) ← within 0 59 2 s
  let (_, s) ← sign ':' s
  let (second, s) ← within 0 60 2 s
  let (fraction, s) ← secondFraction s
  return (padded 2 hour ++ ":" ++ padded 2 minute ++ ":" ++ padded 2 second ++ fraction, s)

def offsetOf (negative : Bool) : Reads String := fun s => do
  let (hours, s) ← within 0 23 2 s
  let (_, s) ← sign ':' s
  let (minutes, s) ← within 0 59 2 s
  let sign := if negative && 0 < hours + minutes then "-" else "+"
  return (sign ++ padded 2 hours ++ ":" ++ padded 2 minutes, s)

def offset : Reads String
  | 'Z' :: s | 'z' :: s => some ("Z", s)
  | '+' :: s => offsetOf false s
  | '-' :: s => offsetOf true s
  | s => some ("", s)

def startsTime (s : List Char) : Bool := ((fixed 2 s).bind fun (_, s) => sign ':' s).isSome

def startsDate (s : List Char) : Bool := ((fixed 4 s).bind fun (_, s) => sign '-' s).isSome

def dateAndTime (s : List Char) : Option (String × List Char) := do
  let (day, s) ← date s
  match s with
  | c :: rest =>
    if (c = 'T' || c = 't' || c = ' ') && startsTime rest then
      let (clock, rest) ← time rest
      let (zone, rest) ← offset rest
      return (day ++ "T" ++ clock ++ zone, rest)
    else return (day, s)
  | [] => return (day, s)

def startsMoment (s : List Char) : Bool := startsDate s || startsTime s

def moment (s : List Char) : Option (String × List Char) :=
  if startsDate s then dateAndTime s else time s

def quotedMoment? (s : String) : Option String :=
  match moment s.toList with
  | some (t, []) => some t
  | _ => none

end NoiseLink.Document.Toml
