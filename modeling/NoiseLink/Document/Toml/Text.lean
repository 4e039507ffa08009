import NoiseLink.Text.Digit

namespace NoiseLink.Document.Toml

/-- What can be read at the start of a text, and what is left of it. -/
abbrev Reads (α : Type) := List Char → Option (α × List Char)

def isBlank (c : Char) : Bool := c = ' ' || c = '\t'

def skip (s : List Char) : List Char := s.dropWhile isBlank

def isPlain (c : Char) : Bool := c = '\t' || (' ' ≤ c && c ≠ '\x7f')

def newline? : List Char → Option (List Char)
  | '\n' :: rest => some rest
  | '\r' :: '\n' :: rest => some rest
  | _ => none

def escaped? : Char → Option Char
  | 'b' => some '\x08'
  | 't' => some '\t'
  | 'n' => some '\n'
  | 'f' => some '\x0c'
  | 'r' => some '\r'
  | '"' => some '"'
  | '\\' => some '\\'
  | _ => none

def codePoint? (digits : List Char) : Option Char := do
  let n ← Text.hexNumber? digits
  if n.isValidChar then return Char.ofNat n else none

def cons? (c : Option Char) (r : Option (List Char × List Char)) : Option (List Char × List Char) := do
  let c ← c
  let (s, rest) ← r
  return (c :: s, rest)

def basic : Reads (List Char)
  | '"' :: rest => some ([], rest)
  | '\\' :: 'u' :: a :: b :: c :: d :: rest => cons? (codePoint? [a, b, c, d]) (basic rest)
  | '\\' :: 'U' :: a :: b :: c :: d :: e :: f :: g :: h :: rest =>
    cons? (codePoint? [a, b, c, d, e, f, g, h]) (basic rest)
  | '\\' :: e :: rest => cons? (escaped? e) (basic rest)
  | c :: rest => if isPlain c then cons? (some c) (basic rest) else none
  | [] => none

def literal : Reads (List Char)
  | '\'' :: rest => some ([], rest)
  | c :: rest => if isPlain c then cons? (some c) (literal rest) else none
  | [] => none

inductive Skipping where
  | no
  | line
  | lines
  deriving DecidableEq

/-- Up to the closing quotes; one or two quotes before them belong to the text. -/
def basicLines : Skipping → Reads (List Char)
  | m, '\n' :: rest => if m = .no then cons? (some '\n') (basicLines .no rest) else basicLines .lines rest
  | m, '\r' :: '\n' :: rest => if m = .no then cons? (some '\n') (basicLines .no rest) else basicLines .lines rest
  | m, ' ' :: rest => if m = .no then cons? (some ' ') (basicLines .no rest) else basicLines m rest
  | m, '\t' :: rest => if m = .no then cons? (some '\t') (basicLines .no rest) else basicLines m rest
  | .line, _ => none
  | _, '"' :: '"' :: '"' :: '"' :: '"' :: rest => some (['"', '"'], rest)
  | _, '"' :: '"' :: '"' :: '"' :: rest => some (['"'], rest)
  | _, '"' :: '"' :: '"' :: rest => some ([], rest)
  | _, '\\' :: 'u' :: a :: b :: c :: d :: rest => cons? (codePoint? [a, b, c, d]) (basicLines .no rest)
  | _, '\\' :: 'U' :: a :: b :: c :: d :: e :: f :: g :: h :: rest =>
    cons? (codePoint? [a, b, c, d, e, f, g, h]) (basicLines .no rest)
  | _, '\\' :: '\n' :: rest => basicLines .lines rest
  | _, '\\' :: '\r' :: '\n' :: rest => basicLines .lines rest
  | _, '\\' :: e :: rest =>
    if isBlank e then basicLines .line rest else cons? (escaped? e) (basicLines .no rest)
  | _, c :: rest => if isPlain c then cons? (some c) (basicLines .no rest) else none
  | _, [] => none

def literalLines : Reads (List Char)
  | '\n' :: rest => cons? (some '\n') (literalLines rest)
  | '\r' :: '\n' :: rest => cons? (some '\n') (literalLines rest)
  | '\'' :: '\'' :: '\'' :: '\'' :: '\'' :: rest => some (['\'', '\''], rest)
  | '\'' :: '\'' :: '\'' :: '\'' :: rest => some (['\''], rest)
  | '\'' :: '\'' :: '\'' :: rest => some ([], rest)
  | c :: rest => if isPlain c then cons? (some c) (literalLines rest) else none
  | [] => none

def opened (s : List Char) : List Char := (newline? s).getD s

def asString (r : Option (List Char × List Char)) : Option (String × List Char) :=
  r.map fun (s, rest) => (String.ofList s, rest)

def text : Reads String
  | '"' :: '"' :: '"' :: rest => asString (basicLines .no (opened rest))
  | '"' :: rest => asString (basic rest)
  | '\'' :: '\'' :: '\'' :: rest => asString (literalLines (opened rest))
  | '\'' :: rest => asString (literal rest)
  | _ => none

end NoiseLink.Document.Toml
