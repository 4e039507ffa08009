import NoiseLink.Noise.Initiator
import NoiseLink.Noise.Responder
import NoiseLink.Proofs.Cuts
import NoiseLink.Proofs.Transcript

namespace NoiseLink

variable {S : Suite}

theorem checkAct_of_ne {m : Bytes} {size : Nat} (h : m.length ≠ size) (act : Act) :
    checkAct m size act = .error (.invalidMessageLength size m.length) := by
  rw [checkAct, if_pos h]

theorem checkAct_cons {rest : Bytes} {size : Nat} (h : rest.length + 1 = size) (v : UInt8) (act : Act) :
    checkAct (v :: rest) size act = if v = 0 then .ok () else .error (.unsupportedVersion act v) := by
  rw [checkAct, if_neg (by simp [h]), List.headD_cons]
  rfl

theorem slice_cons_append (v : UInt8) {key : Bytes} {n : Nat} (h : key.length = n) (tag : Bytes) :
    slice (v :: key ++ tag) 1 (1 + n) = key := by
  subst h
  simp [slice, Nat.add_comm 1]

theorem drop_cons_append (v : UInt8) {key : Bytes} {n : Nat} (h : key.length = n) (tag : Bytes) :
    (v :: key ++ tag).drop (1 + n) = tag := by
  subst h
  simp [Nat.add_comm 1]

theorem Party.parsePoint_of_decode {b : Bytes} {p : S.Point} (h : S.point.decode b = some p) (act : Act) :
    parsePoint S act b = .ok p := by
  rw [parsePoint, h]

theorem Party.parsePoint_of_decode_eq_none {b : Bytes} (h : S.point.decode b = none) (act : Act) :
    parsePoint S act b = .error (.invalidPublicKey act) := by
  rw [parsePoint, h]

/-- What is answered is told by a relation that holds of some answer, and of no other one. -/
theorem eq_iff_of_answered {α : Type} {Answer : α → Prop} {x : α} (answered : ∃ a, Answer a)
    (unique : ∀ a, Answer a → x = a) (a : α) : x = a ↔ Answer a := by
  constructor
  · rintro rfl
    obtain ⟨a, ha⟩ := answered
    rw [unique a ha]
    exact ha
  · exact unique a

/-- The forms of the bytes of an act that brings a point, in the order in which they are looked at. -/
inductive PointAct (S : Suite) : Bytes → Prop
  | length {m : Bytes} (hm : m.length ≠ 50) : PointAct S m
  | version {v : UInt8} {rest : Bytes} (hr : rest.length = 49) (hv : v ≠ 0) : PointAct S (v :: rest)
  | point {key tag : Bytes} (hk : key.length = 33) (ht : tag.length = 16) (h : S.point.decode key = none) :
      PointAct S (0 :: key ++ tag)
  | parsed {key tag : Bytes} {p : S.Point} (hk : key.length = 33) (ht : tag.length = 16)
      (hp : S.point.decode key = some p) : PointAct S (0 :: key ++ tag)

theorem pointAct (S : Suite) (m : Bytes) : PointAct S m := by
  by_cases hm : m.length = 50
  · obtain ⟨v, rest, rfl⟩ := List.exists_cons_of_length_eq_add_one hm
    by_cases hv : v = 0
    · subst v
      obtain ⟨key, tag, rfl, hk, ht⟩ := exists_append_of_length (n := 33) (k := 16) (by simpa using hm)
      cases hp : S.point.decode key with
      | none => exact .point hk ht hp
      | some p => exact .parsed hk ht hp
    · exact .version (by simpa using hm) hv
  · exact .length hm

def Party.spent (S : Suite) (progress : Progress) (n : Nat) : Party S :=
  ⟨⟨Bytes.zeros Suite.digestSize, Bytes.zeros Suite.digestSize, none, none, n⟩, S.overwritten, S.overwritten, progress⟩

def RecordCipher.unused (key chain : Bytes) : RecordCipher S where
  keys := { key := some key, cipher := some (S.cipher key), nonce := 0 }
  chain := chain

namespace Transcript

variable (t : Transcript S) (se : Bytes)

def initiatorSession : Session S where
  sealer := ⟨.unused (t.transportKeys se).1 (t.chain3 se)⟩
  opener := ⟨.unused (t.transportKeys se).2 (t.chain3 se)⟩

def responderSession : Session S where
  sealer := ⟨.unused (t.transportKeys se).2 (t.chain3 se)⟩
  opener := ⟨.unused (t.transportKeys se).1 (t.chain3 se)⟩

variable {t} (sealing : S.Sealing)
include sealing

theorem length_actOne (h : t.first.length = publicKeySize) : t.actOne.length = actOneSize := by
  rw [actOne, List.length_append, List.length_cons, h, tag1, sealing.length_sealed, Nat.add_comm publicKeySize,
    List.length_nil, Nat.zero_add, actOneSize]

theorem length_actTwo (h : t.second.length = publicKeySize) : t.actTwo.length = actTwoSize := by
  rw [actTwo, List.length_append, List.length_cons, h, tag2, sealing.length_sealed, Nat.add_comm publicKeySize,
    List.length_nil, Nat.zero_add, actTwoSize]

theorem length_actThree {static : Bytes} (h : static.length = publicKeySize) (se : Bytes) :
    (t.actThree static se).length = actThreeSize := by
  rw [actThree, List.length_append, List.length_cons, sealedStatic, tag3, sealing.length_sealed, sealing.length_sealed,
    h, List.length_nil, actThreeSize]
  omega

omit sealing
variable (t)

def afterThree (static : Bytes) : Symmetric S :=
  .keyed (S.hash (t.hash4 static ++ t.tag3 static se)) (t.chain3 se) (t.key3 se) 1

end Transcript

namespace Initiator

/-- What an initiator mixes in, once act two has brought the point `re` in the byte form `key`. -/
def transcript (ephemeral : S.Secret) (remote : S.Point) (key : Bytes) (re : S.Point) : Transcript S where
  responder := S.point.encode remote
  first := S.point.encode (S.publicKey ephemeral)
  second := key
  es := S.agree ephemeral remote
  ee := S.agree ephemeral re

def awaiting (static ephemeral : S.Secret) (remote : S.Point) (t : Transcript S) : Initiator S :=
  ⟨⟨t.afterOne, static, ephemeral, .actTwo⟩, remote⟩

variable (static ephemeral : S.Secret) (remote : S.Point)

theorem sendActOne_new (key : Bytes) (re : S.Point) :
    (new static ephemeral remote).sendActOne =
      (.ok (transcript ephemeral remote key re).actOne,
        awaiting static ephemeral remote (transcript ephemeral remote key re)) := by
  have act : (new static ephemeral remote).actOne =
      .ok ((transcript ephemeral remote key re).actOne, (transcript ephemeral remote key re).afterOne) := by
    simp only [actOne, new, Symmetric.mixKey_eq, Symmetric.encryptAndHash_keyed (n := 0) (by decide), bind, Except.bind]
    rfl
  rw [sendActOne, act]
  rfl

section ActTwo

variable {key tag : Bytes} {re : S.Point} (hk : key.length = publicKeySize) (ht : tag.length = macSize)
include hk ht

theorem actThree_cons (key' : Bytes) (re' : S.Point) :
    (awaiting static ephemeral remote (transcript ephemeral remote key' re')).actThree (0 :: key ++ tag) = (do
      let re ← Party.parsePoint S .two key
      let t := transcript ephemeral remote key re
      let (_, sym) ← (Symmetric.keyed t.hash2 t.chain2 t.key2 0 : Symmetric S).openIn .actTwo tag
      let (field, sym) ← sym.encryptAndHash (S.point.encode (S.publicKey static))
      let (last, sym) ← (sym.mixKey (S.agree static re)).encryptAndHash []
      return ((0 :: field ++ last, .ofKeys sym.split.1 sym.split.2 sym.chain), sym)) := by
  have size : (key ++ tag).length + 1 = actTwoSize := by
    simp [hk, ht, actTwoSize]
    omega
  rw [actThree, List.cons_append, checkAct_cons size, if_pos rfl, ← List.cons_append, slice_cons_append _ hk,
    drop_cons_append _ hk]
  rfl

theorem actThree_of_decode_eq_none (key' : Bytes) (re' : S.Point) (h : S.point.decode key = none) :
    (awaiting static ephemeral remote (transcript ephemeral remote key' re')).actThree (0 :: key ++ tag) =
      .error (.invalidPublicKey .two) := by
  rw [actThree_cons _ _ _ hk ht, Party.parsePoint_of_decode_eq_none h]
  rfl

theorem actThree_of_unsealed_eq_none (key' : Bytes) (re' : S.Point) (hre : S.point.decode key = some re)
    (h : S.unsealed (transcript ephemeral remote key re).key2 0 (transcript ephemeral remote key re).hash2 tag = none) :
    (awaiting static ephemeral remote (transcript ephemeral remote key' re')).actThree (0 :: key ++ tag) =
      .error (.authenticationFailed .actTwo) := by
  rw [actThree_cons _ _ _ hk ht, Party.parsePoint_of_decode hre]
  simp only [bind, Except.bind, Symmetric.openIn_keyed (n := 0) (by decide), h]

end ActTwo

section Accepted

variable (sealing : S.Sealing) {key : Bytes} {re : S.Point} (hk : key.length = publicKeySize)
  (hre : S.point.decode key = some re)
include sealing hk hre

theorem actThree_actTwo :
    (awaiting static ephemeral remote (transcript ephemeral remote key re)).actThree
        (transcript ephemeral remote key re).actTwo =
      .ok (((transcript ephemeral remote key re).actThree (S.point.encode (S.publicKey static)) (S.agree static re),
          (transcript ephemeral remote key re).initiatorSession (S.agree static re)),
        (transcript ephemeral remote key re).afterThree (S.agree static re) (S.point.encode (S.publicKey static))) := by
  have ht : (transcript ephemeral remote key re).tag2.length = macSize := by
    simp [Transcript.tag2, sealing.length_sealed]
  rw [show (transcript ephemeral remote key re).actTwo = 0 :: key ++ (transcript ephemeral remote key re).tag2 from rfl,
    actThree_cons _ _ _ hk ht, Party.parsePoint_of_decode hre]
  -- the key that opened act two seals the static point, with the nonce that follows
  simp only [bind, Except.bind, Transcript.tag2, Symmetric.openIn_keyed_sealed sealing.opens (n := 0) (by decide),
    Symmetric.encryptAndHash_keyed (n := 1) (by decide), Symmetric.mixKey_eq,
    Symmetric.encryptAndHash_keyed (n := 0) (by decide)]
  rfl

theorem receiveActTwo_awaiting :
    (awaiting static ephemeral remote (transcript ephemeral remote key re)).receiveActTwo
        (transcript ephemeral remote key re).actTwo =
      (.ok ((transcript ephemeral remote key re).actThree (S.point.encode (S.publicKey static)) (S.agree static re),
          (transcript ephemeral remote key re).initiatorSession (S.agree static re)),
        ⟨.spent S .complete 1, remote⟩) := by
  rw [receiveActTwo, actThree_actTwo _ _ _ sealing hk hre]
  rfl

end Accepted

end Initiator

namespace Responder

def transcript (static ephemeral : S.Secret) (key : Bytes) (re : S.Point) : Transcript S where
  responder := S.point.encode (S.publicKey static)
  first := key
  second := S.point.encode (S.publicKey ephemeral)
  es := S.agree static re
  ee := S.agree ephemeral re

def awaiting (static ephemeral : S.Secret) (t : Transcript S) : Responder S :=
  ⟨⟨t.afterTwo, static, ephemeral, .actThree⟩, none⟩

variable (static ephemeral : S.Secret)

theorem receiveActOne_new (m : Bytes) :
    (new static ephemeral).receiveActOne m =
      let (res, party) := (new static ephemeral).party.settle .actThree ((new static ephemeral).actTwo m)
      (res, ⟨party, none⟩) :=
  rfl

section ActOne

variable {key tag : Bytes} {re : S.Point} (hk : key.length = publicKeySize) (ht : tag.length = macSize)
include hk ht

theorem actTwo_cons :
    (new static ephemeral).actTwo (0 :: key ++ tag) = (do
      let re ← Party.parsePoint S .one key
      let t := transcript static ephemeral key re
      let (_, sym) ← (Symmetric.keyed t.hash1 t.chain1 t.key1 0 : Symmetric S).openIn .actOne tag
      let (last, sym) ← ((sym.mixHash t.second).mixKey t.ee).encryptAndHash []
      return (0 :: t.second ++ last, sym)) := by
  have size : (key ++ tag).length + 1 = actOneSize := by
    simp [hk, ht, actOneSize]
    omega
  rw [actTwo, List.cons_append, checkAct_cons size, if_pos rfl, ← List.cons_append, slice_cons_append _ hk,
    drop_cons_append _ hk]
  rfl

theorem actTwo_of_decode_eq_none (h : S.point.decode key = none) :
    (new static ephemeral).actTwo (0 :: key ++ tag) = .error (.invalidPublicKey .one) := by
  rw [actTwo_cons _ _ hk ht, Party.parsePoint_of_decode_eq_none h]
  rfl

theorem actTwo_of_unsealed_eq_none (hre : S.point.decode key = some re)
    (h : S.unsealed (transcript static ephemeral key re).key1 0 (transcript static ephemeral key re).hash1 tag = none) :
    (new static ephemeral).actTwo (0 :: key ++ tag) = .error (.authenticationFailed .actOne) := by
  rw [actTwo_cons _ _ hk ht, Party.parsePoint_of_decode hre]
  simp only [bind, Except.bind, Symmetric.openIn_keyed (n := 0) (by decide), h]

end ActOne

theorem actTwo_actOne (sealing : S.Sealing) {key : Bytes} {re : S.Point} (hk : key.length = publicKeySize)
    (hre : S.point.decode key = some re) :
    (new static ephemeral).actTwo (transcript static ephemeral key re).actOne =
      .ok ((transcript static ephemeral key re).actTwo, (transcript static ephemeral key re).afterTwo) := by
  have ht : (transcript static ephemeral key re).tag1.length = macSize := by
    simp [Transcript.tag1, sealing.length_sealed]
  rw [show (transcript static ephemeral key re).actOne = 0 :: key ++ (transcript static ephemeral key re).tag1 from rfl,
    actTwo_cons _ _ hk ht, Party.parsePoint_of_decode hre]
  simp only [bind, Except.bind, Transcript.tag1, Symmetric.openIn_keyed_sealed sealing.opens (n := 0) (by decide),
    Symmetric.mixHash_keyed, Symmetric.mixKey_eq, Symmetric.encryptAndHash_keyed (n := 0) (by decide)]
  rfl

theorem receiveActOne_actOne (sealing : S.Sealing) {key : Bytes} {re : S.Point} (hk : key.length = publicKeySize)
    (hre : S.point.decode key = some re) :
    (new static ephemeral).receiveActOne (transcript static ephemeral key re).actOne =
      (.ok (transcript static ephemeral key re).actTwo,
        awaiting static ephemeral (transcript static ephemeral key re)) := by
  rw [receiveActOne_new, actTwo_actOne _ _ sealing hk hre]
  rfl

section ActThree

variable (t : Transcript S)

theorem openActThree_cons {field tag : Bytes} (hf : field.length = publicKeySize + macSize)
    (ht : tag.length = macSize) :
    (awaiting static ephemeral t).openActThree (0 :: field ++ tag) = (do
      let (key, sym) ← t.afterTwo.openIn .actThreeStaticKey field
      let rs ← Party.parsePoint S .three key
      let (_, sym) ← (sym.mixKey (S.agree ephemeral rs)).openIn .actThree tag
      return ((rs, .ofKeys sym.split.2 sym.split.1 sym.chain), sym)) := by
  have size : (field ++ tag).length + 1 = actThreeSize := by
    simp [hf, ht, actThreeSize]
    omega
  rw [openActThree, List.cons_append, checkAct_cons size, if_pos rfl, ← List.cons_append]
  simp only [Nat.add_assoc, slice_cons_append _ hf, drop_cons_append _ hf]
  rfl

variable (sealing : S.Sealing) {key : Bytes} (hk : key.length = publicKeySize)
include sealing

theorem openIn_sealedStatic :
    t.afterTwo.openIn .actThreeStaticKey (t.sealedStatic key) =
      .ok (key, .keyed (t.hash4 key) t.chain2 t.key2 2) :=
  Symmetric.openIn_keyed_sealed sealing.opens (by decide) ..

include hk

theorem length_sealedStatic : (t.sealedStatic key).length = publicKeySize + macSize := by
  rw [Transcript.sealedStatic, sealing.length_sealed, hk]

variable {tag : Bytes} (ht : tag.length = macSize)
include ht

theorem openActThree_of_decode_eq_none (h : S.point.decode key = none) :
    (awaiting static ephemeral t).openActThree (0 :: t.sealedStatic key ++ tag) =
      .error (.invalidPublicKey .three) := by
  rw [openActThree_cons _ _ _ (length_sealedStatic t sealing hk) ht, openIn_sealedStatic t sealing]
  simp only [bind, Except.bind, Party.parsePoint_of_decode_eq_none h]

variable {rs : S.Point} (hrs : S.point.decode key = some rs) {se : Bytes} (hse : S.agree ephemeral rs = se)
include hrs hse

/-- When all else of an act three fits, its tag decides. -/
theorem openActThree_of_decode :
    (awaiting static ephemeral t).openActThree (0 :: t.sealedStatic key ++ tag) =
      match S.unsealed (t.key3 se) 0 (t.hash4 key) tag with
      | some _ => .ok ((rs, t.responderSession se), .keyed (S.hash (t.hash4 key ++ tag)) (t.chain3 se) (t.key3 se) 1)
      | none => .error (.authenticationFailed .actThree) := by
  have last : ((Symmetric.keyed (t.hash4 key) t.chain2 t.key2 2 : Symmetric S).mixKey se).openIn .actThree tag =
      match S.unsealed (t.key3 se) 0 (t.hash4 key) tag with
      | some text => .ok (text, .keyed (S.hash (t.hash4 key ++ tag)) (t.chain3 se) (t.key3 se) 1)
      | none => .error (.authenticationFailed .actThree) :=
    Symmetric.openIn_keyed (by decide) ..
  rw [openActThree_cons _ _ _ (length_sealedStatic t sealing hk) ht, openIn_sealedStatic t sealing]
  simp only [bind, Except.bind, Party.parsePoint_of_decode hrs, hse, last]
  cases S.unsealed (t.key3 se) 0 (t.hash4 key) tag <;> rfl

omit ht

theorem receiveActThree_actThree :
    (awaiting static ephemeral t).receiveActThree (t.actThree key se) =
      (.ok (rs, t.responderSession se), ⟨.spent S .complete 1, some rs⟩) := by
  have ht : (t.tag3 key se).length = macSize := by
    simp [Transcript.tag3, sealing.length_sealed]
  have opened : S.unsealed (t.key3 se) 0 (t.hash4 key) (t.tag3 key se) = some [] := sealing.opens.unsealed_sealed ..
  have act := openActThree_of_decode static ephemeral t sealing hk ht hrs hse
  simp only [opened] at act
  rw [receiveActThree, Transcript.actThree, act]
  rfl

end ActThree

end Responder
end NoiseLink
