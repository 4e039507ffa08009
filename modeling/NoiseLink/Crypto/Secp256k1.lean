import NoiseLink.Bytes

namespace NoiseLink.Secp256k1

open Bytes

def prime : Nat := 0xfffffffffffffffffffffffffffffffffffffffffffffffffffffffefffffc2f

def order : Nat := 0xfffffffffffffffffffffffffffffffebaaedce6af48a03bbfd25e8cd0364141

namespace Coordinate

def add (a b : Nat) : Nat := (a + b) % prime
def sub (a b : Nat) : Nat := (a + (prime - b)) % prime
def mul (a b : Nat) : Nat := a * b % prime
def square (a : Nat) : Nat := a * a % prime

/-- `acc ^ (2 ^ n) * a ^ m` for the low `n` bits `m` of the exponent. -/
def powBits (a e : Nat) : (n acc : Nat) → Nat
  | 0, acc => acc
  | n + 1, acc => powBits a e n (if e.testBit n then mul (square acc) a else square acc)

def pow (a e : Nat) : Nat := powBits a e 256 1

def inv (a : Nat) : Nat := pow a (prime - 2)

/-- A square root, if there is one: `prime` is three modulo four. -/
def sqrt (a : Nat) : Option Nat :=
  let r := pow a ((prime + 1) / 4)
  if square r = a then some r else none

end Coordinate

structure Point where
  x : Nat
  y : Nat
  deriving DecidableEq, Inhabited

structure Jacobian where
  x : Nat
  y : Nat
  z : Nat

namespace Jacobian

open Coordinate

def neutral : Jacobian := ⟨1, 1, 0⟩

def ofPoint (p : Point) : Jacobian := ⟨p.x, p.y, 1⟩

def toPoint (p : Jacobian) : Point :=
  let i := inv p.z
  let i2 := square i
  ⟨mul p.x i2, mul p.y (mul i2 i)⟩

def double (p : Jacobian) : Jacobian :=
  let a := square p.x
  let b := square p.y
  let c := square b
  let d := mul 2 (sub (sub (square (add p.x b)) a) c)
  let e := mul 3 a
  let x := sub (square e) (mul 2 d)
  ⟨x, sub (mul e (sub d x)) (mul 8 c), mul 2 (mul p.y p.z)⟩

def addPoint (p : Jacobian) (q : Point) : Jacobian :=
  if p.z = 0 then ofPoint q
  else
    let z2 := square p.z
    let u := mul q.x z2
    let s := mul q.y (mul z2 p.z)
    if u = p.x then if s = p.y then double p else neutral
    else
      let h := sub u p.x
      let r := sub s p.y
      let h2 := square h
      let h3 := mul h2 h
      let v := mul p.x h2
      let x := sub (sub (square r) h3) (mul 2 v)
      ⟨x, sub (mul r (sub v x)) (mul p.y h3), mul p.z h⟩

def mulBits (k : Nat) (q : Point) : Nat → Jacobian → Jacobian
  | 0, acc => acc
  | n + 1, acc => mulBits k q n (if k.testBit n then acc.double.addPoint q else acc.double)

end Jacobian

def Point.mul (q : Point) (k : Nat) : Point := (Jacobian.mulBits k q 256 .neutral).toPoint

def generator : Point :=
  ⟨0x79be667ef9dcbbac55a06295ce870b07029bfcdb2dce28d959f2815b16f81798,
   0x483ada7726a3c4655da4fbfc0e1108a8fd17b448a68554199c47d08ffb10d4b8⟩

def Point.toBytes (p : Point) : Bytes := UInt8.ofNat (2 + p.y % 2) :: ofNatBE 32 p.x

def Point.ofBytes? : Bytes → Option Point
  | [] => none
  | sign :: rest =>
    let x := toNatBE rest
    if rest.length = 32 ∧ (sign = 2 ∨ sign = 3) ∧ x < prime then
      (Coordinate.sqrt (Coordinate.add (Coordinate.mul (Coordinate.square x) x) 7)).map fun y =>
        ⟨x, if y % 2 + 2 = sign.toNat then y else prime - y⟩
    else none

structure Secret where
  scalar : Nat
  pos : 0 < scalar
  lt : scalar < order

namespace Secret

def toBytes (s : Secret) : Bytes := ofNatBE 32 s.scalar

def ofBytes? (b : Bytes) : Option Secret :=
  if h : b.length = 32 ∧ 0 < toNatBE b ∧ toNatBE b < order then some ⟨toNatBE b, h.2.1, h.2.2⟩ else none

def publicPoint (s : Secret) : Point := generator.mul s.scalar

/-- What a secret that is given up is overwritten with: the byte one throughout. -/
def overwritten : Secret :=
  ⟨0x0101010101010101010101010101010101010101010101010101010101010101, by decide, by decide⟩

instance : Inhabited Secret := ⟨overwritten⟩

end Secret

@[simp] theorem Secret.length_toBytes (s : Secret) : s.toBytes.length = 32 := length_ofNatBE _ _

@[simp] theorem Point.length_toBytes (p : Point) : p.toBytes.length = 33 := by
  simp [Point.toBytes]

theorem Secret.ofBytes?_toBytes (s : Secret) : ofBytes? s.toBytes = some s := by
  have lt : s.scalar < count 32 := Nat.lt_trans s.lt (by decide)
  have value : toNatBE s.toBytes = s.scalar := by
    rw [toBytes, toNatBE_ofNatBE, Nat.mod_eq_of_lt lt]
  simp only [ofBytes?, length_toBytes, value, s.pos, s.lt, and_self, ↓reduceDIte]

end NoiseLink.Secp256k1
