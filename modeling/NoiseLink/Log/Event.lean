import NoiseLink.Decimal.Natural
import NoiseLink.Text.Hex

namespace NoiseLink.Log

inductive Level where
  | error
  | warn
  | info
  | debug
  | trace
  deriving DecidableEq, Repr

def Level.name : Level → String
  | .error => "error"
  | .warn => "warn"
  | .info => "info"
  | .debug => "debug"
  | .trace => "trace"

def Level.all : List Level := [.error, .warn, .info, .debug, .trace]

/-- How far a filter lets levels through: this many of `Level.all`. -/
def Level.rank : Level → Nat
  | .error => 1
  | .warn => 2
  | .info => 3
  | .debug => 4
  | .trace => 5

inductive Filter where
  | off
  | upTo (level : Level)
  deriving DecidableEq, Repr

namespace Filter

def rank : Filter → Nat
  | off => 0
  | upTo level => level.rank

def all : List Filter := off :: Level.all.map upTo

def name : Filter → String
  | off => "off"
  | upTo level => level.name

def ofText? (text : String) : Option Filter :=
  match Decimal.natural? UInt64.size text with
  | some n => all[n]?
  | none => if text = "" then some (upTo .error) else all.find? (·.name = text.toLower)

def ofSetting (text : Option String) : Filter := (text.bind ofText?).getD (upTo .info)

def admits (f : Filter) (level : Level) : Bool := level.rank ≤ f.rank

end Filter

structure Event where
  level : Level
  target : String
  text : String
  deriving DecidableEq, Repr

/-- A character of a log; those that would act on a terminal are written by number. -/
def shown (c : Char) : String :=
  if c ∈ ['\x07', '\x08', '\x0c', '\x1b', '\x7f'] then "\\x" ++ String.ofList (Text.Hex.encodeByte (UInt8.ofNat c.toNat))
  else if '\x80' ≤ c && c ≤ '\u009f' then "\\u\x7b" ++ Text.hexNumber c.toNat ++ "\x7d"
  else c.toString

def Event.line (e : Event) : String := e.target ++ ": " ++ String.join (e.text.toList.map shown)

end NoiseLink.Log
