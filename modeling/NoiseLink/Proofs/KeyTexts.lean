import NoiseLink.Document.Reading
import NoiseLink.Proofs.HexTexts
import NoiseLink.Proofs.KeyBytes

namespace NoiseLink

open Text

namespace KeyCodec

variable {K : Type}

/-- The keys that are valid are those that some bytes are read as, and each is read from its byte form only. -/
structure Faithful (codec : KeyCodec K) (size : Nat) (Valid : K → Prop) : Prop where
  size_eq : codec.size = size
  decode_iff : ∀ {b : Bytes} {k : K}, codec.decode b = some k ↔ Valid k ∧ codec.encode k = b
  length_encode : ∀ k, (codec.encode k).length = size

/-- What a key text `s` without white space around it is read as. The count of its bytes is looked at first, then its
digits, then how many bytes they stand for, and the bytes last. -/
inductive Reads (codec : KeyCodec K) (s : List Char) : Except KeyError K → Prop
  | key {b : Bytes} {k : K} (size : s.length = 2 * codec.size) (spells : Spells s b) (valid : codec.decode b = some k) :
      Reads codec s (.ok k)
  | hex {e : Hex.Error} (bad : Hex.Decodes s (.error e)) : Reads codec s (.error (.hex e))
  | length {b : Bytes} (spells : Spells s b) (other : b.length ≠ codec.size) :
      Reads codec s (.error (.length codec.size b.length))
  | malformed {b : Bytes} (size : s.length = 2 * codec.size) (spells : Spells s b) (invalid : codec.decode b = none) :
      Reads codec s (.error (.malformed codec.kind))

variable {codec : KeyCodec K} {t : String} {s : List Char}

theorem parse_eq (trims : Trims t.toList s) :
    codec.parse t = match Hex.decode (utf8 s) with
      | .ok b => codec.ofBytes b
      | .error e => .error (.hex e) := by
  rw [trims.eq_trim]
  rfl

theorem ofBytes_of_ne {b : Bytes} (other : b.length ≠ codec.size) :
    codec.ofBytes b = .error (.length codec.size b.length) := if_neg other

theorem ofBytes_of_some {b : Bytes} {k : K} (size : b.length = codec.size) (valid : codec.decode b = some k) :
    codec.ofBytes b = .ok k := by
  rw [ofBytes, if_pos size, valid]

theorem ofBytes_of_none {b : Bytes} (size : b.length = codec.size) (invalid : codec.decode b = none) :
    codec.ofBytes b = .error (.malformed codec.kind) := by
  rw [ofBytes, if_pos size, invalid]

theorem reads_parse (trims : Trims t.toList s) : Reads codec s (codec.parse t) := by
  have decoded := Hex.decodes_decode s
  rw [parse_eq trims]
  generalize Hex.decode (utf8 s) = r at decoded
  cases r with
  | error e => exact .hex decoded
  | ok b =>
      obtain ⟨spells⟩ := decoded
      by_cases size : b.length = codec.size
      · have digits : s.length = 2 * codec.size := size ▸ spells.length_eq
        cases decoded : codec.decode b with
        | none =>
            simp only [ofBytes_of_none size decoded]
            exact .malformed digits spells decoded
        | some k =>
            simp only [ofBytes_of_some size decoded]
            exact .key digits spells decoded
      · simp only [ofBytes_of_ne size]
        exact .length spells size

theorem Reads.eq_parse (trims : Trims t.toList s) {r : Except KeyError K} (h : Reads codec s r) : codec.parse t = r := by
  have whole {b : Bytes} (size : s.length = 2 * codec.size) (spells : Spells s b) : b.length = codec.size := by
    rw [spells.length_eq] at size
    omega
  rw [parse_eq trims]
  cases h with
  | key size spells valid =>
      simp only [(Hex.Decodes.ok spells).eq_decode]
      exact ofBytes_of_some (whole size spells) valid
  | hex bad => simp only [bad.eq_decode]
  | length spells other =>
      simp only [(Hex.Decodes.ok spells).eq_decode]
      exact ofBytes_of_ne other
  | malformed size spells invalid =>
      simp only [(Hex.Decodes.ok spells).eq_decode]
      exact ofBytes_of_none (whole size spells) invalid

theorem parse_eq_iff (trims : Trims t.toList s) {r : Except KeyError K} : codec.parse t = r ↔ Reads codec s r := by
  constructor
  · rintro rfl
    exact reads_parse trims
  · exact Reads.eq_parse trims

theorem toList_print (k : K) : (codec.print k).toList = Hex.encode (codec.encode k) := String.toList_ofList

section Faithful

variable {size : Nat} {Valid : K → Prop} (faithful : codec.Faithful size Valid)
include faithful

theorem spells_of_parse (trims : Trims t.toList s) {k : K} (parsed : codec.parse t = .ok k) :
    Valid k ∧ Spells s (codec.encode k) := by
  cases (parse_eq_iff trims).1 parsed with
  | key _ spells decoded =>
      obtain ⟨valid, rfl⟩ := faithful.decode_iff.1 decoded
      exact ⟨valid, spells⟩

theorem print_of_parse (trims : Trims t.toList s) {k : K} (parsed : codec.parse t = .ok k) :
    (codec.print k).toList = s.map Char.toLower := by
  rw [toList_print, (spells_of_parse faithful trims parsed).2.encode]

theorem parse_print {k : K} (valid : Valid k) : codec.parse (codec.print k) = .ok k := by
  have spells := spells_encode (codec.encode k)
  have trims : Trims (codec.print k).toList (Hex.encode (codec.encode k)) := by
    rw [toList_print]
    exact trims_self spells.not_blank
  have digits : (Hex.encode (codec.encode k)).length = 2 * codec.size := by
    rw [spells.length_eq, faithful.length_encode, faithful.size_eq]
  exact (parse_eq_iff trims).2 (.key digits spells (faithful.decode_iff.2 ⟨valid, rfl⟩))

theorem print_injective {k k' : K} (valid : Valid k) (valid' : Valid k') (same : codec.print k = codec.print k') :
    k = k' := by
  have parsed := parse_print faithful valid
  rw [same, parse_print faithful valid'] at parsed
  exact (Except.ok.inj parsed).symm

theorem eq_iff_of_parse {t' : String} {s' : List Char} {k k' : K} (trims : Trims t.toList s) (trims' : Trims t'.toList s')
    (parsed : codec.parse t = .ok k) (parsed' : codec.parse t' = .ok k') :
    k = k' ↔ s.map Char.toLower = s'.map Char.toLower := by
  have printed := print_of_parse faithful trims parsed
  have printed' := print_of_parse faithful trims' parsed'
  constructor
  · rintro rfl
    exact printed.symm.trans printed'
  · intro same
    have texts : codec.print k = codec.print k' := String.toList_injective (printed.trans (same.trans printed'.symm))
    exact print_injective faithful (spells_of_parse faithful trims parsed).1 (spells_of_parse faithful trims' parsed').1 texts

end Faithful

end KeyCodec

namespace Document.Source

theorem key_text {K : Type} {src : Source} (texts : ∀ t, src.asText (.text t) = .ok t) (codec : KeyCodec K) (t : String) :
    src.key codec (.written (.text t)) = (codec.parse t).mapError fun e => .other e.message := by
  rw [key, text, take, texts]
  rfl

end Document.Source

open Document

structure KeyCodec.Texts {K : Type} (codec : KeyCodec K) (size : Nat) (Valid : K → Prop) : Prop
    extends codec.Faithful size Valid where
  parsed : ∀ (t : String) (s : List Char), Trims t.toList s → ∀ r, codec.parse t = r ↔ codec.Reads s r
  printed : ∀ (t : String) (s : List Char) (k : K), Trims t.toList s → codec.parse t = .ok k →
    Valid k ∧ (codec.print k).toList = s.map Char.toLower ∧ Spells s (codec.encode k)
  undone : ∀ k, Valid k → codec.parse (codec.print k) = .ok k
  same : ∀ (t t' : String) (s s' : List Char) (k k' : K), Trims t.toList s → Trims t'.toList s' →
    codec.parse t = .ok k → codec.parse t' = .ok k' → (k = k' ↔ s.map Char.toLower = s'.map Char.toLower)
  strict : ∀ t, Source.strict.key codec (.written (.text t)) = (codec.parse t).mapError fun e => .other e.message
  lenient : ∀ file t, (Source.lenient file).key codec (.written (.text t)) =
    (codec.parse t).mapError fun e => .other e.message
  written : ∀ k, Value.ofKey codec k = .text (codec.print k)

theorem KeyCodec.Faithful.texts {K : Type} {codec : KeyCodec K} {size : Nat} {Valid : K → Prop}
    (faithful : codec.Faithful size Valid) : codec.Texts size Valid where
  toFaithful := faithful
  parsed _ _ trims _ := parse_eq_iff trims
  printed _ _ _ trims parsed :=
    have ⟨valid, spells⟩ := spells_of_parse faithful trims parsed
    ⟨valid, print_of_parse faithful trims parsed, spells⟩
  undone _ := parse_print faithful
  same _ _ _ _ _ _ := eq_iff_of_parse faithful
  strict := Source.key_text (fun _ => rfl) codec
  lenient _ := Source.key_text (fun _ => rfl) codec
  written _ := rfl

namespace Suite

theorem faithful_secret : standard.secret.Faithful 32 fun _ => True where
  size_eq := rfl
  decode_iff := by
    intro b k
    rw [true_and]
    exact Secp256k1.Secret.ofBytes?_eq_some_iff
  length_encode := Secp256k1.Secret.length_toBytes

theorem faithful_point : standard.point.Faithful 33 Secp256k1.Point.OnCurve where
  size_eq := rfl
  decode_iff := Secp256k1.Point.ofBytes?_eq_some_iff
  length_encode := Secp256k1.Point.length_toBytes

end Suite

/-- A secret is read from 64 digits and a point of the curve from 66, with any white space around them, and each is written
as these digits in lower case. Every other text is refused, for the first thing that is wrong with it. -/
theorem key_texts_exact :
    (∀ t : List Char, ∃! s, Trims t s) ∧ Suite.standard.secret.Texts 32 (fun _ => True) ∧
      Suite.standard.point.Texts 33 Secp256k1.Point.OnCurve :=
  ⟨existsUnique_trims, Suite.faithful_secret.texts, Suite.faithful_point.texts⟩

end NoiseLink
