import Mathlib.Tactic.Common
import NoiseLink.Link.Error

namespace NoiseLink

namespace Text

/-- Texts that are made of a stem for the kind and of a tail for the rest tell apart what they are the texts of, if no
stem begins another. -/
theorem injective_of_stems {ε κ : Type} {text tail : ε → String} {kind : ε → κ} {stem : κ → String}
    (whole : ∀ e, text e = stem (kind e) ++ tail e)
    (free : ∀ e e', (stem (kind e)).toList <+: (stem (kind e')).toList → kind e = kind e')
    (told : ∀ e e', kind e = kind e' → tail e = tail e' → e = e') : Function.Injective text := by
  intro e e' same
  rw [whole, whole] at same
  have lists := congrArg String.toList same
  rw [String.toList_append, String.toList_append] at lists
  have kinds : kind e = kind e' := by
    rcases List.prefix_or_prefix_of_prefix (List.prefix_append _ _) (lists ▸ List.prefix_append _ _) with second | first
    · exact (free e' e second).symm
    · exact free e e' first
  rw [kinds] at same
  exact told e e' kinds ((String.append_right_inj _).1 same)

theorem takeWhile_digits {n : Nat} {s : List Char} (stop : ∀ c ∈ s.head?, c.isDigit = false) :
    (Nat.toDigits 10 n ++ s).takeWhile Char.isDigit = Nat.toDigits 10 n := by
  have digits : ∀ c ∈ Nat.toDigits 10 n, c.isDigit = true := fun c mem =>
    Nat.isDigit_of_mem_toDigits (by decide) (by decide) mem
  rw [List.takeWhile_append_of_pos digits]
  cases s with
  | nil => exact List.append_nil _
  | cons c s => rw [List.takeWhile_cons_of_neg (by simp [stop c rfl]), List.append_nil]

/-- A number ends where its digits end. -/
theorem toString_append_inj {n m : Nat} {s t : String} (stop : ∀ c ∈ s.toList.head?, c.isDigit = false)
    (stop' : ∀ c ∈ t.toList.head?, c.isDigit = false) (same : toString n ++ s = toString m ++ t) : n = m ∧ s = t := by
  have lists := congrArg String.toList same
  rw [String.toList_append, String.toList_append, Nat.toString_eq_repr, Nat.toString_eq_repr, Nat.toList_repr,
    Nat.toList_repr] at lists
  have digits : Nat.toDigits 10 n = Nat.toDigits 10 m := by
    rw [← takeWhile_digits stop, lists, takeWhile_digits stop']
  have numbers : n = m := by
    rw [← Nat.ofDigitChars_ten_toDigits (n := n), digits, Nat.ofDigitChars_ten_toDigits]
  rw [digits] at lists
  exact ⟨numbers, String.toList_injective (List.append_cancel_left lists)⟩

theorem toString_inj {n m : Nat} (same : toString n = toString m) : n = m :=
  (toString_append_inj (s := "") (t := "") nofun nofun (congrArg (· ++ "") same)).1

end Text

open Text

namespace NoiseError

def kind : NoiseError → NoiseError
  | unsupportedVersion act _ => unsupportedVersion act 0
  | invalidMessageLength _ _ => invalidMessageLength 0 0
  | messageTooLarge _ => messageTooLarge 0
  | e => e

def kinds : List NoiseError :=
  [Act.one, .two, .three].flatMap (fun act => [unsupportedVersion act 0, invalidPublicKey act]) ++
    [Stage.actOne, .actTwo, .actThreeStaticKey, .actThree, .recordLength, .recordBody].map authenticationFailed ++
    [invalidMessageLength 0 0, messageTooLarge 0, nonceExhausted, keyErased, handshakeAborted,
      unexpectedHandshakeMessage, invalidRawPublicKey, invalidRawPrivateKey, aead]

def stem : NoiseError → String
  | unsupportedVersion act _ => act.label ++ "_BAD_VERSION "
  | invalidMessageLength _ _ => "invalid message length: expected "
  | messageTooLarge _ => "message too large: "
  | e => e.message

def tail : NoiseError → String
  | unsupportedVersion _ version => toString version.toNat
  | invalidMessageLength expected actual => toString expected ++ (", got " ++ toString actual)
  | messageTooLarge size => toString size ++ (" bytes (max " ++ (toString maxMessageSize ++ ")"))
  | _ => ""

theorem kind_mem_kinds (e : NoiseError) : e.kind ∈ kinds := by
  cases e with
  | unsupportedVersion act version => cases act <;> simp [kind, kinds]
  | invalidPublicKey act => cases act <;> simp [kind, kinds]
  | authenticationFailed stage => cases stage <;> simp [kind, kinds]
  | _ => simp [kind, kinds]

theorem message_eq (e : NoiseError) : e.message = e.kind.stem ++ e.tail := by
  cases e with
  | unsupportedVersion => rfl
  | invalidMessageLength expected actual =>
      change _ ++ toString expected ++ ", got " ++ toString actual = _ ++ (toString expected ++ (_ ++ toString actual))
      rw [String.append_assoc, String.append_assoc]
      rfl
  | messageTooLarge size =>
      change _ ++ toString size ++ " bytes (max " ++ _ ++ ")" = _ ++ (toString size ++ (_ ++ (_ ++ _)))
      rw [String.append_assoc, String.append_assoc, String.append_assoc]
      rfl
  | _ => exact String.append_empty.symm

theorem kind_eq_of_prefix (e e' : NoiseError) (h : e.kind.stem.toList <+: e'.kind.stem.toList) : e.kind = e'.kind := by
  have free : ∀ a ∈ kinds, ∀ b ∈ kinds, a.stem.toList <+: b.stem.toList → a = b := by decide +kernel
  exact free _ e.kind_mem_kinds _ e'.kind_mem_kinds h

theorem eq_of_kind_of_tail (e e' : NoiseError) (kinds : e.kind = e'.kind) (tails : e.tail = e'.tail) : e = e' := by
  cases e with
  | unsupportedVersion act version =>
      cases e' <;> cases kinds
      rw [UInt8.toNat_inj.1 (toString_inj tails)]
  | invalidMessageLength expected actual =>
      cases e' <;> cases kinds
      obtain ⟨rfl, rest⟩ := toString_append_inj (by simp) (by simp) tails
      rw [toString_inj ((String.append_right_inj _).1 rest)]
  | messageTooLarge size =>
      cases e' <;> cases kinds
      obtain ⟨rfl, -⟩ := toString_append_inj (by simp) (by simp) tails
      rfl
  | _ =>
      cases e' <;> cases kinds
      rfl

theorem message_injective : Function.Injective message :=
  injective_of_stems message_eq kind_eq_of_prefix eq_of_kind_of_tail

end NoiseError

namespace LinkError

def kind : LinkError → LinkError
  | missingBytes _ => missingBytes 0
  | noise _ => noise .aead
  | truncatedRecord _ _ => truncatedRecord 0 0
  | unexpectedState => unexpectedState
  | messageTooLarge _ => messageTooLarge 0

def kinds : List LinkError :=
  [missingBytes 0, noise .aead, truncatedRecord 0 0, unexpectedState, messageTooLarge 0]

def stem : LinkError → String
  | missingBytes _ => "Missing `"
  | noise _ => "Noise error: "
  | truncatedRecord _ _ => "Stream ended mid-record: expected `"
  | unexpectedState => "Noise state is incorrect"
  | messageTooLarge _ => "Message of `"

def tail : LinkError → String
  | missingBytes size => toString size ++ "` bytes"
  | noise e => e.message
  | truncatedRecord expected received =>
    toString expected ++ ("` bytes, received `" ++ (toString received ++ "`"))
  | unexpectedState => ""
  | messageTooLarge size => toString size ++ "` bytes is too large"

theorem message_eq (e : LinkError) : e.message = e.kind.stem ++ e.tail := by
  cases e with
  | noise => rfl
  | missingBytes | messageTooLarge => exact String.append_assoc ..
  | truncatedRecord expected received =>
      change _ ++ toString expected ++ _ ++ toString received ++ _ =
        _ ++ (toString expected ++ (_ ++ (toString received ++ _)))
      rw [String.append_assoc, String.append_assoc, String.append_assoc]
      rfl
  | unexpectedState => exact String.append_empty.symm

theorem kind_eq_of_prefix (e e' : LinkError) (h : e.kind.stem.toList <+: e'.kind.stem.toList) : e.kind = e'.kind := by
  have free : ∀ a ∈ kinds, ∀ b ∈ kinds, a.stem.toList <+: b.stem.toList → a = b := by decide +kernel
  have mem (e : LinkError) : e.kind ∈ kinds := by
    cases e <;> simp [kind, kinds]
  exact free _ (mem e) _ (mem e') h

theorem eq_of_kind_of_tail (e e' : LinkError) (kinds : e.kind = e'.kind) (tails : e.tail = e'.tail) : e = e' := by
  cases e with
  | missingBytes size | messageTooLarge size =>
      cases e' <;> cases kinds
      obtain ⟨rfl, -⟩ := toString_append_inj (by simp) (by simp) tails
      rfl
  | noise e =>
      cases e' <;> cases kinds
      rw [NoiseError.message_injective tails]
  | truncatedRecord expected received =>
      cases e' <;> cases kinds
      obtain ⟨rfl, rest⟩ := toString_append_inj (by simp) (by simp) tails
      obtain ⟨rfl, -⟩ := toString_append_inj (by simp) (by simp) ((String.append_right_inj _).1 rest)
      rfl
  | unexpectedState =>
      cases e' <;> cases kinds
      rfl

end LinkError

/-- Errors with the same text are the same, of the handshake and of the ciphers as of the link that wraps them. -/
theorem error_texts_distinct : Function.Injective NoiseError.message ∧ Function.Injective LinkError.message :=
  ⟨NoiseError.message_injective,
    injective_of_stems LinkError.message_eq LinkError.kind_eq_of_prefix LinkError.eq_of_kind_of_tail⟩

end NoiseLink
