import NoiseLink.Proofs.Primitives

namespace NoiseLink

/-- What acts one and two mix in: the byte forms of the responder's static point and of both ephemeral points,
and the secrets shared through the first and through the second of these. -/
structure Transcript (S : Suite) where
  responder : Bytes
  first : Bytes
  second : Bytes
  es : Bytes
  ee : Bytes

namespace Transcript

variable {S : Suite} (t : Transcript S)

def ascii (text : String) : Bytes := text.toList.map fun c => UInt8.ofNat c.toNat

def start (S : Suite) : Bytes := S.hash (ascii "Noise_XK_secp256k1_ChaChaPoly_SHA256")

def hash0 : Bytes := S.hash (S.hash (start S ++ ascii "lightning") ++ t.responder)

def hash1 : Bytes := S.hash (t.hash0 ++ t.first)

def chain1 : Bytes := S.firstOutput (start S) t.es

def key1 : Bytes := S.secondOutput (start S) t.es

def tag1 : Bytes := S.sealed t.key1 0 t.hash1 []

def hash2 : Bytes := S.hash (S.hash (t.hash1 ++ t.tag1) ++ t.second)

def chain2 : Bytes := S.firstOutput t.chain1 t.ee

def key2 : Bytes := S.secondOutput t.chain1 t.ee

def tag2 : Bytes := S.sealed t.key2 0 t.hash2 []

def hash3 : Bytes := S.hash (t.hash2 ++ t.tag2)

def sealedStatic (static : Bytes) : Bytes := S.sealed t.key2 1 t.hash3 static

def hash4 (static : Bytes) : Bytes := S.hash (t.hash3 ++ t.sealedStatic static)

def chain3 (se : Bytes) : Bytes := S.firstOutput t.chain2 se

def key3 (se : Bytes) : Bytes := S.secondOutput t.chain2 se

def tag3 (static se : Bytes) : Bytes := S.sealed (t.key3 se) 0 (t.hash4 static) []

/-- The first key is the one that the initiator sends with. -/
def transportKeys (se : Bytes) : Bytes × Bytes := (S.firstOutput (t.chain3 se) [], S.secondOutput (t.chain3 se) [])

def actOne : Bytes := 0 :: t.first ++ t.tag1

def actTwo : Bytes := 0 :: t.second ++ t.tag2

def actThree (static se : Bytes) : Bytes := 0 :: t.sealedStatic static ++ t.tag3 static se

end Transcript

namespace Symmetric

variable {S : Suite}

/-- A state that holds a key, of which `n` nonces are used. -/
def keyed (hash chain key : Bytes) (n : Nat) : Symmetric S := ⟨hash, chain, some key, some (S.cipher key), n⟩

theorem mixHash_keyed (hash chain key data : Bytes) (n : Nat) :
    (keyed hash chain key n : Symmetric S).mixHash data = keyed (S.hash (hash ++ data)) chain key n :=
  rfl

theorem mixKey_eq (s : Symmetric S) (material : Bytes) :
    s.mixKey material = keyed s.hash (S.firstOutput s.chain material) (S.secondOutput s.chain material) 0 :=
  rfl

theorem encryptAndHash_keyed {n : Nat} (h : n < lastNonce) (hash chain key text : Bytes) :
    (keyed hash chain key n : Symmetric S).encryptAndHash text =
      .ok (S.sealed key n hash text, keyed (S.hash (hash ++ S.sealed key n hash text)) chain key (n + 1)) := by
  simp [encryptAndHash, keyed, KeyState.encrypt, Nat.ne_of_lt h, bind, Except.bind, pure, Except.pure, mixHash,
    Suite.sealed, nonceBytes_eq]

theorem openIn_keyed {n : Nat} (h : n < lastNonce) (stage : Stage) (hash chain key sealed : Bytes) :
    (keyed hash chain key n : Symmetric S).openIn stage sealed =
      match S.unsealed key n hash sealed with
      | some text => .ok (text, keyed (S.hash (hash ++ sealed)) chain key (n + 1))
      | none => .error (.authenticationFailed stage) := by
  simp only [openIn, decryptAndHash, keyed, KeyState.decrypt, Nat.ne_of_lt h, Suite.unsealed, nonceBytes_eq,
    Option.isSome_some, if_true, if_false]
  cases S.decrypt (S.cipher key) (counter n) hash sealed <;> rfl

theorem openIn_keyed_sealed (opens : S.Opens) {n : Nat} (h : n < lastNonce) (stage : Stage)
    (hash chain key text : Bytes) :
    (keyed hash chain key n : Symmetric S).openIn stage (S.sealed key n hash text) =
      .ok (text, keyed (S.hash (hash ++ S.sealed key n hash text)) chain key (n + 1)) := by
  rw [openIn_keyed h, opens.unsealed_sealed]

end Symmetric

namespace Transcript

variable {S : Suite} (t : Transcript S)

def afterOne : Symmetric S := .keyed (S.hash (t.hash1 ++ t.tag1)) t.chain1 t.key1 1

def afterTwo : Symmetric S := .keyed t.hash3 t.chain2 t.key2 1

end Transcript
end NoiseLink
