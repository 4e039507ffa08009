namespace NoiseLink.Document

inductive Value where
  | null
  | bool (b : Bool)
  | integer (i : Int)
  | float (x : Float)
  | text (s : String)
  | array (items : List Value)
  | table (entries : List (String × Value))
  deriving Inhabited

namespace Value

def entries : Value → List (String × Value)
  | table es => es
  | _ => []

def field? (v : Value) (name : String) : Option Value := v.entries.lookup name

def text? : Value → Option String
  | text s => some s
  | _ => none

def integer? : Value → Option Int
  | integer i => some i
  | _ => none

def natural? : Value → Option Nat
  | integer (.ofNat n) => some n
  | _ => none

def bool? : Value → Option Bool
  | bool b => some b
  | _ => none

def items? : Value → Option (List Value)
  | array vs => some vs
  | _ => none

end Value

def insertEntry {α : Type} (name : String) (v : α) : List (String × α) → List (String × α)
  | [] => [(name, v)]
  | (n, w) :: rest => if n = name then (name, v) :: rest else (n, w) :: insertEntry name v rest

end NoiseLink.Document
