import NoiseLink.Document.Toml.Moment
import NoiseLink.Document.Value

namespace NoiseLink.Document.Toml

inductive Origin where
  | header
  | implied
  | dotted
  | braces
  deriving DecidableEq, Repr

inductive Item where
  | scalar (v : Value)
  | moment (text : String)
  | array (items : List Item)
  | table (origin : Origin) (entries : List (String × Item))
  | tables (elements : List (List (String × Item)))

abbrev Entries := List (String × Item)

def Entries.put (name : String) (item : Item) : Entries → Entries
  | [] => [(name, item)]
  | (n, i) :: rest => if n = name then (name, item) :: rest else (n, i) :: put name item rest

abbrev Change := Origin → Entries → Option Entries

/-- Goes along a path, making tables of the given origin where there is nothing yet, and changes the last table. An
array of tables stands for its last element. -/
def reach (made : Origin) (change : Change) : List String → Change
  | [], origin, es => change origin es
  | name :: path, _, es =>
    match es.lookup name with
    | none => do return es.put name (.table made (← reach made change path made []))
    | some (.table origin sub) =>
      if origin = .braces || (made = .dotted && origin = .header) then none
      else do return es.put name (.table origin (← reach made change path origin sub))
    | some (.tables elements) =>
      match elements.getLast? with
      | some sub => do return es.put name (.tables (elements.dropLast ++ [← reach made change path .header sub]))
      | none => none
    | some _ => none

/-- A new entry. Keys with dots add only to tables made by such keys, and other keys only to other tables. -/
def addEntry (dotted : Bool) (name : String) (item : Item) : Change := fun origin es =>
  if dotted ≠ decide (origin = .dotted) then none
  else if (es.lookup name).isSome then none
  else some (es.put name item)

def setKey (path : List String) (name : String) (item : Item) : Change :=
  reach .dotted (addEntry (!path.isEmpty) name item) path

def defineTable (name : String) : Change := fun _ es =>
  match es.lookup name with
  | none => some (es.put name (.table .header []))
  | some (.table .implied sub) => some (es.filter (·.1 ≠ name) ++ [(name, .table .header sub)])
  | _ => none

def appendTable (name : String) : Change := fun _ es =>
  match es.lookup name with
  | none => some (es.put name (.tables [[]]))
  | some (.tables elements) => some (es.put name (.tables (elements ++ [[]])))
  | _ => none

/-- A table whose first entry has this name stands for the date or the time that the entry names. -/
def momentName : String := "$__toml_private_datetime"

mutual

def Item.toValue? : Item → Option Value
  | .scalar v => some v
  | .moment t => some (.text t)
  | .array items => (itemsToValues? items).map .array
  | .table _ es => tableToValue? es
  | .tables elements => (tablesToValues? elements).map .array

def tableToValue? : List (String × Item) → Option Value
  | [] => some (.table [])
  | (name, i) :: rest =>
    if name = momentName then
      match i with
      | .scalar (.text t) => (quotedMoment? t).map .text
      | _ => none
    else do
      let v ← i.toValue?
      let es ← entriesToValues? rest
      return .table ((name, v) :: es)

def entriesToValues? : List (String × Item) → Option (List (String × Value))
  | [] => some []
  | (name, i) :: rest => do
    let v ← i.toValue?
    let es ← entriesToValues? rest
    return (name, v) :: es

def itemsToValues? : List Item → Option (List Value)
  | [] => some []
  | i :: rest => do
    let v ← i.toValue?
    let vs ← itemsToValues? rest
    return v :: vs

def tablesToValues? : List (List (String × Item)) → Option (List Value)
  | [] => some []
  | es :: rest => do
    let v ← tableToValue? es
    let vs ← tablesToValues? rest
    return v :: vs

end

end NoiseLink.Document.Toml
