import NoiseLink.Document.Reading

namespace NoiseLink

structure Duration where
  secs : Nat
  nanos : Nat
  deriving DecidableEq, Repr

namespace Duration

def second : Nat := 1000000000

def ofNanos (n : Nat) : Duration := ⟨n / second, n % second⟩

def toNanos (d : Duration) : Nat := d.secs * second + d.nanos

def isZero (d : Duration) : Bool := d.secs = 0 && d.nanos = 0

def perSecond? (name : String) : Option UInt64 :=
  if name ∈ ["seconds", "secs", "s"] then some 1
  else if name ∈ ["milliseconds", "millis", "ms"] then some 1000
  else if name ∈ ["microseconds", "micros", "us"] then some 1000000
  else if name ∈ ["nanoseconds", "nanos", "ns"] then some 1000000000
  else none

/-- So many units of which `size` make a second. Less than a second is counted in 32 bits. -/
def ofUnits (size value : UInt64) : Duration :=
  ⟨(value / size).toNat, ((value % size).toUInt32 * (1000000000 / size).toUInt32).toNat⟩

def read (src : Document.Source) (s : Document.Setting) : Except Document.ReadError Duration := do
  let (unit, value) ← src.pair "Helper" "unit" "value" src.text src.natural s
  match perSecond? unit with
  | some size => return ofUnits size (UInt64.ofNat value)
  | none => throw (.other ("Unsupported duration unit `" ++ unit ++ "`"))

def fraction : (fuel n size : Nat) → String
  | 0, _, _ => ""
  | fuel + 1, n, size => if n = 0 then "" else toString (10 * n / size) ++ fraction fuel (10 * n % size) size

def amount (whole part size : Nat) (symbol : String) : String :=
  toString whole ++ (if part = 0 then "" else "." ++ fraction 9 part size) ++ symbol

def print (d : Duration) : String :=
  if d.secs > 0 then amount d.secs d.nanos (1000000000) "s"
  else if d.nanos ≥ 1000000 then amount (d.nanos / 1000000) (d.nanos % 1000000) (1000000) "ms"
  else if d.nanos ≥ 1000 then amount (d.nanos / 1000) (d.nanos % 1000) (1000) "µs"
  else amount d.nanos 0 1 "ns"

end Duration
end NoiseLink
