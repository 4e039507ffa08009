import NoiseLink.Log.Event
import NoiseLink.Text.Blank

namespace NoiseLink.Log

structure Date where
  year : Nat
  month : Nat
  day : Nat
  deriving DecidableEq, Repr

def cycleDays : Nat := 146097

/-- The date that is so many days after the first of January 1970. Years are counted from March on, so that a leap
day comes last. -/
def Date.ofDays (days : Nat) : Date :=
  let days := days + 719468
  let day := days % cycleDays
  let year := (day - day / 1460 + day / 36524 - day / 146096) / 365
  let day := day - (365 * year + year / 4 - year / 100)
  let month := (5 * day + 2) / 153
  let january := month ≥ 10
  ⟨400 * (days / cycleDays) + year + if january then 1 else 0, if january then month - 9 else month + 3,
    day - (153 * month + 2) / 5 + 1⟩

def padded (width n : Nat) : String :=
  let digits := toString n
  String.ofList (List.replicate (width - digits.length) '0') ++ digits

def stamp (micros : Nat) : String :=
  let seconds := micros / 1000000
  let date := Date.ofDays (seconds / 86400)
  let time := "-".intercalate [padded 4 date.year, padded 2 date.month, padded 2 date.day] ++ "T" ++
    ":".intercalate [padded 2 (seconds / 3600 % 24), padded 2 (seconds / 60 % 60), padded 2 (seconds % 60)]
  time ++ "." ++ padded 6 (micros % 1000000) ++ "Z"

def Level.mark (level : Level) : String := level.name.toUpper

def Event.entry (e : Event) (micros : Nat) : String :=
  let mark := e.level.mark
  stamp micros ++ " " ++ String.ofList (List.replicate (5 - mark.length) ' ') ++ mark ++ " " ++ e.line

def text (micros : Nat) (es : List Event) : String := String.join (es.map fun e => e.entry micros ++ "\n")

/-- The level of a line, and what follows it. White space of any kind ends the time, and a space ends the level. -/
def readEntry (line : List Char) : String × String :=
  let rest := Text.trimStart (line.dropWhile (!Text.isBlank ·))
  let mark := rest.takeWhile (· ≠ ' ')
  (String.ofList mark, String.ofList (rest.drop (mark.length + 1)))

def withoutReturn (line : List Char) : List Char := if line.getLast? = some '\r' then line.dropLast else line

def lines (text : String) : List (List Char) :=
  let parts := text.toList.splitOn '\n'
  let last := parts.drop (parts.length - 1)
  parts.dropLast.map withoutReturn ++ last.filter (· ≠ [])

def readEntries (text : String) : List (String × String) := (lines text).map readEntry

end NoiseLink.Log
