import NoiseLink.Text.Hex

namespace NoiseLink.Text

def between (low high : Nat) (b : UInt8) : Bool := low ≤ b.toNat && b.toNat ≤ high

def lead (b : UInt8) : Option (Nat × Nat × Nat) :=
  let n := b.toNat
  if n < 0x80 then some (0, 0, 0)
  else if n < 0xc2 then none
  else if n < 0xe0 then some (0x80, 0xbf, 1)
  else if n < 0xf0 then some (if n = 0xe0 then 0xa0 else 0x80, if n = 0xed then 0x9f else 0xbf, 2)
  else if n < 0xf5 then some (if n = 0xf0 then 0x90 else 0x80, if n = 0xf4 then 0x8f else 0xbf, 3)
  else none

def leadBits (b : UInt8) (tails : Nat) : Nat :=
  match tails with
  | 0 => b.toNat
  | 1 => b.toNat % 32
  | 2 => b.toNat % 16
  | _ => b.toNat % 8

def tails (low high : Nat) : Nat → Bytes → Bytes
  | 0, _ => []
  | _, [] => []
  | n + 1, b :: rest => if between low high b then b :: tails 0x80 0xbf n rest else []

/-- The first character, if there is one, and the count of bytes it or the piece in its place takes. -/
def firstChar (b : UInt8) (rest : Bytes) : Option Char × Nat :=
  match lead b with
  | none => (none, 1)
  | some (low, high, n) =>
    let ts := tails low high n rest
    if ts.length = n then
      (some (Char.ofNat (ts.foldl (fun v t => 64 * v + t.toNat % 64) (leadBits b n))), n + 1)
    else (none, ts.length + 1)

def replacement : Char := '\ufffd'

/-- All characters, and a replacement for each piece that is none. -/
def decodeLossy : Bytes → List Char
  | [] => []
  | b :: rest => (firstChar b rest).1.getD replacement :: decodeLossy (rest.drop ((firstChar b rest).2 - 1))
termination_by b => b.length
decreasing_by simp only [List.length_drop, List.length_cons]; omega

def lossy (b : Bytes) : String := String.ofList (decodeLossy b)

def ofUtf8? (b : Bytes) : Option String :=
  let s := decodeLossy b
  if utf8 s = b then some (String.ofList s) else none

end NoiseLink.Text
