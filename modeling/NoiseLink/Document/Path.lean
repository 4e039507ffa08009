import NoiseLink.Decimal.Natural
import NoiseLink.Document.Setting

namespace NoiseLink.Document

inductive PathStep where
  | name (s : String)
  | index (i : Int)
  deriving DecidableEq, Repr

namespace PathStep

def isNameChar (c : Char) : Bool := c.isAlphanum || c = ' ' || c = '_' || c = '-'

def index? (digits : List Char) : Option Int :=
  let (negative, ds) := match digits with
    | '-' :: ds => (true, ds)
    | ds => (false, ds)
  if ds.isEmpty || ds.any (!·.isDigit) then none
  else
    let n := Decimal.ofDigits ds
    if negative && n ≤ Decimal.signedBound then some (-n)
    else if n < Decimal.signedBound then some n
    else none

def trimmed (s : List Char) : List Char :=
  let isBlank (c : Char) := c = ' ' || c = '\t'
  ((s.dropWhile isBlank).reverse.dropWhile isBlank).reverse

def more : (fuel : Nat) → List Char → Option (List PathStep)
  | _, [] => some []
  | 0, _ => none
  | fuel + 1, '.' :: s => do
    let name := s.takeWhile isNameChar
    if name.isEmpty then none else return .name (String.ofList name) :: (← more fuel (s.drop name.length))
  | fuel + 1, '[' :: s => do
    let inside := s.takeWhile (· ≠ ']')
    let i ← index? (trimmed inside)
    match s.drop inside.length with
    | _ :: rest => return .index i :: (← more fuel rest)
    | [] => none
  | _, _ => none

def parse? (text : String) : Option (List PathStep) := do
  let s := text.toList
  let name := s.takeWhile isNameChar
  if name.isEmpty then none else return .name (String.ofList name) :: (← more s.length (s.drop name.length))

end PathStep

namespace Setting

/-- Puts a value where a path leads, in place of whatever is in the way, if there is such a place. -/
def place? (v : Value) : List PathStep → Setting → Option Setting
  | [], root => some root
  | [.name s], root => some (root.set s v)
  | [.index i], root => root.changeItem? i fun _ => some (.written v)
  | .name s :: path, root => do
    return .table (insertEntry s (← place? v path ((root.field? s).getD .unset)) root.entries)
  | .index i :: path, root => root.changeItem? i (place? v path)

def ofEntries? (entries : List (String × Value)) : Option Setting :=
  entries.foldlM (fun root (name, v) =>
    let name := foldedName name
    place? v ((PathStep.parse? name).getD [.name name]) root) (.table [])

end Setting
end NoiseLink.Document
