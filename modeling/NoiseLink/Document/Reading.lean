import NoiseLink.Decimal.Layout
import NoiseLink.Decimal.Natural
import NoiseLink.Document.Setting
import NoiseLink.Key
import NoiseLink.Text.Quoted

namespace NoiseLink.Document

inductive ReadError where
  | conversion (found expected : String) (path : String) (file : Option String)
  | other (text : String)
  deriving DecidableEq, Repr

namespace ReadError

def place : Option String → String
  | some file => " in " ++ file
  | none => ""

def message : ReadError → String
  | conversion found expected path file =>
    "invalid type: " ++ found ++ ", expected " ++ expected ++
      (if path.isEmpty then "" else " for key `" ++ path ++ "`") ++ place file
  | other text => text

def missing (name : String) : ReadError := other ("missing field `" ++ name ++ "`")

def wrongType (found expected : String) : ReadError := other ("invalid type: " ++ found ++ ", expected " ++ expected)

def within (name : String) : ReadError → ReadError
  | conversion found expected path file =>
    let dot := if path.isEmpty || path.startsWith "[" then "" else "."
    conversion found expected (name ++ dot ++ path) file
  | e => e

def withinItem (index : Nat) : ReadError → ReadError
  | conversion found expected path file => conversion found expected ("[" ++ toString index ++ "]" ++ path) file
  | e => e

def inFile (file : Option String) : ReadError → ReadError
  | conversion found expected path _ => conversion found expected path file
  | e => e

end ReadError

def Value.ofKey {K : Type} (codec : KeyCodec K) (k : K) : Value := .text (codec.print k)

structure Source where
  asText : Value → Except ReadError String
  asNatural : Value → Except ReadError Nat
  name : Value → String
  allowsMore : Bool
  file : Option String

namespace Source

def boolText (b : Bool) : String := if b then "true" else "false"

def nameWith (null : String) (float : Float → String) : Value → String
  | .null => null
  | .bool b => "boolean `" ++ boolText b ++ "`"
  | .integer i => "integer `" ++ toString i ++ "`"
  | .float x => "floating point `" ++ float x ++ "`"
  | .text s => "string " ++ Text.quote s
  | .array _ => "sequence"
  | .table _ => "map"

def strictName : Value → String := nameWith "null" Decimal.interchange

def strict : Source where
  asText
    | .text s => .ok s
    | v => .error (.wrongType (strictName v) "a string")
  asNatural
    | .integer i =>
      if 0 ≤ i then .ok i.toNat
      else .error (.other ("invalid value: " ++ strictName (.integer i) ++ ", expected u64"))
    | v => .error (.wrongType (strictName v) "u64")
  name := strictName
  allowsMore := false
  file := none

def switch (s : String) : Option Nat :=
  let s := s.toLower
  if s ∈ ["true", "on", "yes"] then some 1
  else if s ∈ ["false", "off", "no"] then some 0
  else none

def unfit {α : Type} (found expected : String) : Except ReadError α := .error (.conversion found expected "" none)

def lenient (file : Option String) : Source where
  asText
    | .text s => .ok s
    | .bool b => .ok (boolText b)
    | .integer i => .ok (toString i)
    | .float x => .ok (Decimal.plain x)
    | .null => unfit "unit value" "a string"
    | .array _ => unfit "sequence" "a string"
    | .table _ => unfit "map" "a string"
  asNatural
    | .integer i =>
      if 0 ≤ i then .ok i.toNat
      else unfit ("64-bit integer `" ++ toString i ++ "`") "an unsigned 64 bit or less integer"
    | .text s =>
      match switch s, Decimal.natural? UInt64.size s with
      | some n, _ => .ok n
      | none, some n => .ok n
      | none, none => unfit ("string " ++ Text.quote s) "an integer"
    | .bool b => .ok b.toNat
    | .float x => .ok x.round.toUInt64.toNat
    | .null => unfit "unit value" "an integer"
    | .array _ => unfit "sequence" "an integer"
    | .table _ => unfit "map" "an integer"
  name := nameWith "unit value" Decimal.withPoint
  allowsMore := true
  file

variable {α β : Type}

def take (src : Source) (convert : Value → Except ReadError α) : Setting → Except ReadError α
  | .written v => (convert v).mapError (·.inFile src.file)
  | s => convert s.value

def text (src : Source) : Setting → Except ReadError String := src.take src.asText

def natural (src : Source) : Setting → Except ReadError Nat := src.take src.asNatural

def unshaped (src : Source) (s : Setting) (expected : String) : Except ReadError α :=
  .error (.wrongType (src.name s.value) expected)

def optional (read : Setting → Except ReadError α) (name : String) (s : Setting) : Except ReadError (Option α) :=
  match s.field? name with
  | some s => ((read s).mapError (·.within name)).map some
  | none => .ok none

def item (read : Setting → Except ReadError α) (index : Nat) (s : Setting) : Except ReadError α :=
  (read s).mapError (·.withinItem index)

def items (read : Setting → Except ReadError α) (index : Nat) : List Setting → Except ReadError (List α)
  | [] => .ok []
  | s :: rest => do
    let a ← item read index s
    let as ← items read (index + 1) rest
    return a :: as

def list (src : Source) (read : Setting → Except ReadError α) (s : Setting) : Except ReadError (List α) :=
  match s.items? with
  | some ss => items read 0 ss
  | none => src.unshaped s "a sequence"

/-- Two fields of a table. Both are read before an absent one is reported. -/
def fields (first second : String) (readFirst : Setting → Except ReadError α)
    (readSecond : Setting → Except ReadError β) (s : Setting) : Except ReadError (α × β) := do
  let a ← optional readFirst first s
  let b ← optional readSecond second s
  match a, b with
  | some a, some b => return (a, b)
  | none, _ => throw (.missing first)
  | _, none => throw (.missing second)

def twoItems (src : Source) (record : String) (readFirst : Setting → Except ReadError α)
    (readSecond : Setting → Except ReadError β) (ss : List Setting) : Except ReadError (α × β) :=
  let short (n : Nat) : ReadError :=
    .other ("invalid length " ++ toString n ++ ", expected struct " ++ record ++ " with 2 elements")
  match ss with
  | [] => .error (short 0)
  | [s] => do
    let _ ← item readFirst 0 s
    throw (short 1)
  | s :: t :: rest => do
    let a ← item readFirst 0 s
    let b ← item readSecond 1 t
    if rest.isEmpty || src.allowsMore then return (a, b)
    else throw (.other ("invalid length " ++ toString ss.length ++ ", expected fewer elements in array"))

def pair (src : Source) (record first second : String) (readFirst : Setting → Except ReadError α)
    (readSecond : Setting → Except ReadError β) (s : Setting) : Except ReadError (α × β) :=
  match s.entries?, s.items? with
  | some _, _ => fields first second readFirst readSecond s
  | none, some ss => src.twoItems record readFirst readSecond ss
  | none, none => src.unshaped s ("struct " ++ record)

def key {K : Type} (src : Source) (codec : KeyCodec K) (s : Setting) : Except ReadError K := do
  let text ← src.text s
  (codec.parse text).mapError fun e => .other e.message

end Source
end NoiseLink.Document
