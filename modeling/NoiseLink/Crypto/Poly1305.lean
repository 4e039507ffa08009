import NoiseLink.Bytes

namespace NoiseLink.Poly1305

open Bytes

def prime : Nat := 0x3fffffffffffffffffffffffffffffffb

def clamp (r : Nat) : Nat := r &&& 0x0ffffffc0ffffffc0ffffffc0fffffff

/-- The number `a + b·B + c·B² + d·B³ + e·B⁴`, where `B` has 26 bits. -/
structure Limbs where
  a : UInt64
  b : UInt64
  c : UInt64
  d : UInt64
  e : UInt64

namespace Limbs

def base : Nat := 0x4000000

@[inline] def low (x : UInt64) : UInt64 := x &&& 0x3ffffff

def zero : Limbs := ⟨0, 0, 0, 0, 0⟩

def toNat (x : Limbs) : Nat :=
  x.a.toNat + base * (x.b.toNat + base * (x.c.toNat + base * (x.d.toNat + base * x.e.toNat)))

@[inline] def ofWords (x y z : UInt64) : Limbs :=
  ⟨low x, low (x >>> 26), low (x >>> 52 ||| y <<< 12), low (y >>> 14), y >>> 40 ||| z <<< 24⟩

@[inline] def add (x y : Limbs) : Limbs := ⟨x.a + y.a, x.b + y.b, x.c + y.c, x.d + y.d, x.e + y.e⟩

/-- Carries from limb to limb. What leaves the last one comes back five times at the first. -/
@[inline] def carry (a b c d e : UInt64) : Limbs :=
  let b := b + a >>> 26
  let c := c + b >>> 26
  let d := d + c >>> 26
  let e := e + d >>> 26
  let spill := e >>> 26
  let a := low a + 5 * spill
  ⟨low a, low b + a >>> 26, low c, low d, low e⟩

@[inline] def mul (x y : Limbs) : Limbs :=
  let b := 5 * y.b
  let c := 5 * y.c
  let d := 5 * y.d
  let e := 5 * y.e
  carry (x.a * y.a + x.b * e + x.c * d + x.d * c + x.e * b)
    (x.a * y.b + x.b * y.a + x.c * e + x.d * d + x.e * c)
    (x.a * y.c + x.b * y.b + x.c * y.a + x.d * e + x.e * d)
    (x.a * y.d + x.b * y.c + x.c * y.b + x.d * y.a + x.e * e)
    (x.a * y.e + x.b * y.d + x.c * y.c + x.d * y.b + x.e * y.a)

end Limbs

@[inline] def absorb (r acc : Limbs) (x y z : UInt64) : Limbs := (acc.add (.ofWords x y z)).mul r

@[inline] def place (b : UInt8) (n : UInt64) : UInt64 := b.toUInt64 <<< (8 * n)

/-- Absorbs a message. `x` and `y` are the words of the block at hand, of which there are `n` bytes. A block counts as
a number with one more byte above its top, which is one. -/
def absorbFrom (r acc : Limbs) (x y n : UInt64) : Bytes → Limbs
  | [] =>
    if n = 0 then acc
    else if n < 8 then absorb r acc (x ||| place 1 n) y 0
    else absorb r acc x (y ||| place 1 (n - 8)) 0
  | b :: rest =>
    if n < 8 then absorbFrom r acc (x ||| place b n) y (n + 1) rest
    else
      let y := y ||| place b (n - 8)
      if n = 15 then absorbFrom r (absorb r acc x y 1) 0 0 0 rest else absorbFrom r acc x y (n + 1) rest

def tag (key message : Bytes) : Bytes :=
  let r := clamp (toNatLE (key.take 16))
  let r := Limbs.ofWords (UInt64.ofNat r) (UInt64.ofNat (r >>> 64)) 0
  let s := toNatLE (key.drop 16)
  ofNatLE 16 ((absorbFrom r .zero 0 0 0 message).toNat % prime + s)

@[simp] theorem length_tag (key message : Bytes) : (tag key message).length = 16 := by
  simp [tag]

end NoiseLink.Poly1305
