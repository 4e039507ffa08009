import NoiseLink.Document.Value

namespace NoiseLink.Document

inductive Setting where
  | written (v : Value)
  | unset
  | array (items : List Setting)
  | table (entries : List (String × Setting))
  deriving Inhabited

namespace Setting

mutual

def value : Setting → Value
  | written v => v
  | unset => .null
  | array items => .array (itemValues items)
  | table entries => .table (entryValues entries)

def itemValues : List Setting → List Value
  | [] => []
  | s :: rest => s.value :: itemValues rest

def entryValues : List (String × Setting) → List (String × Value)
  | [] => []
  | (name, s) :: rest => (name, s.value) :: entryValues rest

end

def items? : Setting → Option (List Setting)
  | written v => v.items?.map (·.map written)
  | array items => some items
  | _ => none

def entries? : Setting → Option (List (String × Setting))
  | written (.table entries) => some (entries.map fun (name, v) => (name, written v))
  | table entries => some entries
  | _ => none

def items (s : Setting) : List Setting := s.items?.getD []

def entries (s : Setting) : List (String × Setting) := s.entries?.getD []

def field? (s : Setting) (name : String) : Option Setting := s.entries.lookup name

/-- How a letter of a name counts, which is without case. The sign of Kelvin is the one letter beyond ASCII that counts
as a letter of ASCII. -/
def foldedLetter (c : Char) : Char := if c = '\u212a' then 'k' else c.toLower

def foldedName (name : String) : String := String.ofList (name.toList.map foldedLetter)

mutual

def set (root : Setting) (name : String) : Value → Setting
  | .table es => .table (insertEntry name (setAll ((root.field? name).getD (.table [])) es) root.entries)
  | v => .table (insertEntry name (.written v) root.entries)

def setAll (root : Setting) : List (String × Value) → Setting
  | [] => root
  | (name, v) :: rest => setAll (root.set (foldedName name) v) rest

end

def longestArray : Nat := 20000000

/-- Changes the item at an index, which counts from the end if it is negative. There is none before the first one. -/
def changeItem? (i : Int) (change : Setting → Option Setting) (root : Setting) : Option Setting := do
  let items := root.items
  let n := if i < 0 then items.length + i else i
  if n < 0 || longestArray ≤ n then none
  let n := n.toNat
  let items := items ++ List.replicate (n + 1 - items.length) unset
  return array (items.set n (← change (items.getD n unset)))

end Setting
end NoiseLink.Document
