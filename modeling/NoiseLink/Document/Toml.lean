import NoiseLink.Document.Toml.Scalar

namespace NoiseLink.Document.Toml

/-- How deep values may be nested, and how many names a key may have. -/
def depthLimit : Nat := 79

def isBare (c : Char) : Bool := c.isAlphanum || c = '-' || c = '_'

def simpleKey : Reads String
  | '"' :: rest => asString (basic rest)
  | '\'' :: rest => asString (literal rest)
  | s =>
    let name := s.takeWhile isBare
    if name.isEmpty then none else some (String.ofList name, s.drop name.length)

def key : (limit : Nat) → Reads (List String)
  | 0, _ => none
  | limit + 1, s => do
    let (name, rest) ← simpleKey (skip s)
    match skip rest with
    | '.' :: rest =>
      let (names, rest) ← key limit rest
      return (name :: names, rest)
    | rest => return ([name], rest)

def keyParts (names : List String) : Option (List String × String) := names.getLast?.map fun n => (names.dropLast, n)

def gap : (comment : Bool) → List Char → List Char
  | _, '\n' :: rest => gap false rest
  | _, '\r' :: '\n' :: rest => gap false rest
  | true, c :: rest => if isPlain c then gap true rest else c :: rest
  | false, c :: rest => if isBlank c then gap false rest else if c = '#' then gap true rest else c :: rest
  | _, [] => []

mutual

def value : (fuel depth : Nat) → Reads Item
  | 0, _, _ => none
  | _, 0, '[' :: _ | _, 0, '{' :: _ => none
  | fuel + 1, depth + 1, '[' :: rest => (items fuel depth rest).map fun (is, rest) => (.array is, rest)
  | fuel + 1, depth + 1, '{' :: rest =>
    match skip rest with
    | '}' :: rest => some (.table .braces [], rest)
    | rest => (pairs fuel depth [] rest).map fun (es, rest) => (.table .braces es, rest)
  | _ + 1, _, '"' :: rest => (text ('"' :: rest)).map fun (t, rest) => (.scalar (.text t), rest)
  | _ + 1, _, '\'' :: rest => (text ('\'' :: rest)).map fun (t, rest) => (.scalar (.text t), rest)
  | _ + 1, _, 't' :: 'r' :: 'u' :: 'e' :: rest => some (.scalar (.bool true), rest)
  | _ + 1, _, 'f' :: 'a' :: 'l' :: 's' :: 'e' :: rest => some (.scalar (.bool false), rest)
  | _ + 1, _, s => scalar s

def items : (fuel depth : Nat) → Reads (List Item)
  | 0, _, _ => none
  | fuel + 1, depth, s =>
    match gap false s with
    | ']' :: rest => some ([], rest)
    | s => do
      let (i, rest) ← value fuel depth s
      match gap false rest with
      | ',' :: rest =>
        let (is, rest) ← items fuel depth rest
        return (i :: is, rest)
      | ']' :: rest => return ([i], rest)
      | _ => none

def pairs : (fuel depth : Nat) → Entries → Reads Entries
  | 0, _, _, _ => none
  | fuel + 1, depth, es, s => do
    let (names, rest) ← key depthLimit s
    let (path, name) ← keyParts names
    let (_, rest) ← sign '=' rest
    let (i, rest) ← value fuel depth (skip rest)
    let es ← setKey path name i .header es
    match skip rest with
    | ',' :: rest => pairs fuel depth es rest
    | '}' :: rest => return (es, rest)
    | _ => none

end

def lineEnd (s : List Char) : Option (List Char) :=
  let rest := match skip s with
    | '#' :: rest => rest.dropWhile isPlain
    | rest => rest
  if rest.isEmpty then some [] else newline? rest

def header (close : List Char) (s : List Char) : Option (List String × List Char) := do
  let (names, rest) ← key depthLimit s
  if close.isPrefixOf rest then return (names, ← lineEnd (rest.drop close.length)) else none

/-- The lines of a document; entries go to the table of the last header. -/
def lines : (fuel : Nat) → (current : List String) → Entries → List Char → Option Entries
  | 0, _, _, _ => none
  | fuel + 1, current, root, s =>
    match skip s with
    | [] => some root
    | '[' :: '[' :: rest => do
      let (names, rest) ← header [']', ']'] rest
      let (path, name) ← keyParts names
      lines fuel names (← reach .implied (appendTable name) path .header root) rest
    | '[' :: rest => do
      let (names, rest) ← header [']'] rest
      let (path, name) ← keyParts names
      lines fuel names (← reach .implied (defineTable name) path .header root) rest
    | '#' :: rest => do lines fuel current root (← lineEnd ('#' :: rest))
    | c :: rest =>
      match newline? (c :: rest) with
      | some rest => lines fuel current root rest
      | none => do
        let (names, rest) ← key depthLimit (c :: rest)
        let (path, name) ← keyParts names
        let (_, rest) ← sign '=' rest
        let (i, rest) ← value rest.length depthLimit (skip rest)
        lines fuel current (← reach .implied (setKey path name i) current .header root) (← lineEnd rest)

/-- Reads a whole document, which is a table, unless it stands for a date or a time. One mark of the encoding may
stand before it. -/
def parse (s : String) : Option Value :=
  let cs := match s.toList with
    | '\ufeff' :: rest => rest
    | all => all
  (lines (cs.length + 1) [] [] cs).bind tableToValue?

end NoiseLink.Document.Toml
