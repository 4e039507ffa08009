import NoiseLink.Bytes

namespace NoiseLink.ChaCha20

open Bytes

/-- One row, or one quarter-round operand, of the four by four state. -/
structure Quad where
  a : UInt32
  b : UInt32
  c : UInt32
  d : UInt32

structure State where
  top : Quad
  upper : Quad
  lower : Quad
  bottom : Quad

def Quad.add (p q : Quad) : Quad := ⟨p.a + q.a, p.b + q.b, p.c + q.c, p.d + q.d⟩

def State.add (s t : State) : State :=
  ⟨s.top.add t.top, s.upper.add t.upper, s.lower.add t.lower, s.bottom.add t.bottom⟩

@[inline] def rotl (x : UInt32) (n : UInt32) : UInt32 := (x <<< n) ||| (x >>> (32 - n))

@[inline] def quarter (a b c d : UInt32) : Quad :=
  let a := a + b
  let d := rotl (d ^^^ a) 16
  let c := c + d
  let b := rotl (b ^^^ c) 12
  let a := a + b
  let d := rotl (d ^^^ a) 8
  let c := c + d
  let b := rotl (b ^^^ c) 7
  ⟨a, b, c, d⟩

@[inline] def columns (s : State) : State :=
  let p := quarter s.top.a s.upper.a s.lower.a s.bottom.a
  let q := quarter s.top.b s.upper.b s.lower.b s.bottom.b
  let r := quarter s.top.c s.upper.c s.lower.c s.bottom.c
  let t := quarter s.top.d s.upper.d s.lower.d s.bottom.d
  ⟨⟨p.a, q.a, r.a, t.a⟩, ⟨p.b, q.b, r.b, t.b⟩, ⟨p.c, q.c, r.c, t.c⟩, ⟨p.d, q.d, r.d, t.d⟩⟩

@[inline] def diagonals (s : State) : State :=
  let p := quarter s.top.a s.upper.b s.lower.c s.bottom.d
  let q := quarter s.top.b s.upper.c s.lower.d s.bottom.a
  let r := quarter s.top.c s.upper.d s.lower.a s.bottom.b
  let t := quarter s.top.d s.upper.a s.lower.b s.bottom.c
  ⟨⟨p.a, q.a, r.a, t.a⟩, ⟨t.b, p.b, q.b, r.b⟩, ⟨r.c, t.c, p.c, q.c⟩, ⟨q.d, r.d, t.d, p.d⟩⟩

def rounds : Nat → State → State
  | 0, s => s
  | n + 1, s => rounds n (diagonals (columns s))

structure Key where
  low : Quad
  high : Quad

def quad (b : Bytes) : Quad :=
  let word (i : Nat) := UInt32.ofNat (toNatLE ((b.drop (4 * i)).take 4))
  ⟨word 0, word 1, word 2, word 3⟩

def Key.ofBytes (b : Bytes) : Key := ⟨quad b, quad (b.drop 16)⟩

def initial (k : Key) (counter : Nat) (nonce : Bytes) : State :=
  let n := quad nonce
  ⟨⟨0x61707865, 0x3320646e, 0x79622d32, 0x6b206574⟩, k.low, k.high, ⟨UInt32.ofNat counter, n.a, n.b, n.c⟩⟩

def word (x : UInt32) (rest : Bytes) : Bytes :=
  x.toUInt8 :: (x >>> 8).toUInt8 :: (x >>> 16).toUInt8 :: (x >>> 24).toUInt8 :: rest

def Quad.bytes (q : Quad) (rest : Bytes) : Bytes := word q.a (word q.b (word q.c (word q.d rest)))

def blockBefore (k : Key) (counter : Nat) (nonce rest : Bytes) : Bytes :=
  let s := initial k counter nonce
  let t := s.add (rounds 10 s)
  t.top.bytes (t.upper.bytes (t.lower.bytes (t.bottom.bytes rest)))

def block (k : Key) (counter : Nat) (nonce : Bytes) : Bytes := blockBefore k counter nonce []

def stream (k : Key) (nonce : Bytes) (counter : Nat) : Nat → Bytes
  | 0 => []
  | n + 1 => blockBefore k counter nonce (stream k nonce (counter + 1) n)

def apply (k : Key) (nonce : Bytes) (counter : Nat) (data : Bytes) : Bytes :=
  mask data (stream k nonce counter ((data.length + 63) / 64))

@[simp] theorem length_blockBefore (k : Key) (counter : Nat) (nonce rest : Bytes) :
    (blockBefore k counter nonce rest).length = 64 + rest.length := by
  simp [blockBefore, Quad.bytes, word]
  omega

@[simp] theorem length_block (k : Key) (counter : Nat) (nonce : Bytes) : (block k counter nonce).length = 64 := by
  simp [block]

@[simp] theorem length_stream (k : Key) (nonce : Bytes) (counter n : Nat) :
    (stream k nonce counter n).length = 64 * n := by
  induction n generalizing counter with
  | zero => rfl
  | succ n ih => simp [stream, ih]; omega

@[simp] theorem length_apply (k : Key) (nonce : Bytes) (counter : Nat) (data : Bytes) :
    (apply k nonce counter data).length = data.length := by
  simp [apply, mask]
  omega

theorem mask_mask {a b : Bytes} (h : a.length ≤ b.length) : mask (mask a b) b = a := by
  induction a generalizing b with
  | nil => simp [mask]
  | cons x a ih =>
    cases b with
    | nil => simp at h
    | cons y b => simpa [mask, UInt8.xor_assoc] using ih (by simpa using h)

theorem apply_apply (k : Key) (nonce : Bytes) (counter : Nat) (data : Bytes) :
    apply k nonce counter (apply k nonce counter data) = data := by
  rw [apply, length_apply, apply]
  exact mask_mask (by simp; omega)

end NoiseLink.ChaCha20
