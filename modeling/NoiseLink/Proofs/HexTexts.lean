import Mathlib.Data.List.TakeWhile
import Mathlib.Tactic.Common
import NoiseLink.Text.Blank
import NoiseLink.Text.Digit
import NoiseLink.Text.Hex

namespace NoiseLink.Text

structure Trims (t s : List Char) : Prop where
  whole : ∃ before after, t = before ++ s ++ after ∧ (∀ c ∈ before, isBlank c = true) ∧ ∀ c ∈ after, isBlank c = true
  first : ∀ c ∈ s.head?, isBlank c = false
  last : ∀ c ∈ s.getLast?, isBlank c = false

theorem trimStart_eq_self {s : List Char} (first : ∀ c ∈ s.head?, isBlank c = false) : trimStart s = s := by
  cases s with
  | nil => rfl
  | cons c s => exact List.dropWhile_cons_of_neg (by simp [first c rfl])

theorem trimStart_append {before : List Char} (blank : ∀ c ∈ before, isBlank c = true) (s : List Char) :
    trimStart (before ++ s) = trimStart s :=
  List.dropWhile_append_of_pos blank

theorem trimStart_of_blank {s : List Char} (blank : ∀ c ∈ s, isBlank c = true) : trimStart s = [] := by
  have dropped := trimStart_append blank []
  rwa [List.append_nil] at dropped

theorem head?_trimStart (s : List Char) : ∀ c ∈ (trimStart s).head?, isBlank c = false := by
  intro c mem
  have first := List.head?_dropWhile_not isBlank s
  rw [← trimStart, Option.mem_def.1 mem] at first
  exact first

theorem exists_blank (s : List Char) : ∃ before, s = before ++ trimStart s ∧ ∀ c ∈ before, isBlank c = true :=
  ⟨_, List.takeWhile_append_dropWhile.symm, fun _ mem => List.mem_takeWhile_imp mem⟩

theorem trims_trim (t : List Char) : Trims t (trim t) := by
  obtain ⟨before, split, blank⟩ := exists_blank t
  obtain ⟨after, split', blank'⟩ := exists_blank (trimStart t).reverse
  have first := head?_trimStart t
  have last := head?_trimStart (trimStart t).reverse
  have kept : trimStart t = trim t ++ after.reverse := by
    rw [← List.reverse_reverse (trimStart t), split', List.reverse_append]
    rfl
  refine ⟨⟨before, after.reverse, ?_, blank, fun c mem => blank' c (List.mem_reverse.1 mem)⟩, fun c mem => ?_, ?_⟩
  · rw [List.append_assoc, ← kept]
    exact split
  · refine first c ?_
    rw [kept, List.head?_append, Option.mem_def.1 mem]
    rfl
  · rw [trim, List.getLast?_reverse]
    exact last

theorem Trims.eq_trim {t s : List Char} (h : Trims t s) : s = trim t := by
  obtain ⟨before, after, rfl, blank, blank'⟩ := h.whole
  rw [trim, List.append_assoc, trimStart_append blank]
  cases s with
  | nil => rw [List.nil_append, trimStart_of_blank blank']; rfl
  | cons c s =>
      have last : trimStart (c :: s).reverse = (c :: s).reverse := by
        apply trimStart_eq_self
        rw [List.head?_reverse]
        exact h.last
      have kept : trimStart (c :: s ++ after) = c :: s ++ after := trimStart_eq_self h.first
      rw [kept, List.reverse_append, trimStart_append (fun c mem => blank' c (List.mem_reverse.1 mem)), last,
        List.reverse_reverse]

theorem existsUnique_trims (t : List Char) : ∃! s, Trims t s := ⟨trim t, trims_trim t, fun _ h => h.eq_trim⟩

theorem trims_self {s : List Char} (dark : ∀ c ∈ s, isBlank c = false) : Trims s s where
  whole := ⟨[], [], (List.append_nil s).symm, nofun, nofun⟩
  first c mem := dark c (List.mem_of_mem_head? mem)
  last c mem := dark c (List.mem_of_mem_getLast? mem)

theorem lt_of_hexValue? {c : Char} {v : Nat} (h : hexValue? c = some v) : c.toNat < 128 := by
  simp only [hexValue?, Char.le_def, UInt32.le_iff_toNat_le] at h
  change c.val.toNat < 128
  have nine : ('9' : Char).val.toNat = 57 := rfl
  have f : ('f' : Char).val.toNat = 102 := rfl
  have F : ('F' : Char).val.toNat = 70 := rfl
  split at h
  · omega
  · split at h
    · omega
    · split at h
      · omega
      · cases h

theorem Hex.value?_eq (b : UInt8) : value? b = hexValue? (Char.ofNat b.toNat) := by
  have all : ∀ n < 256, value? (UInt8.ofNat n) = hexValue? (Char.ofNat n) := by decide +kernel
  have here := all b.toNat b.toNat_lt_size
  rwa [UInt8.ofNat_toNat] at here

theorem digit_of_hexValue? {c : Char} {v : Nat} (h : hexValue? c = some v) : v < 16 ∧ Hex.digit v = c.toLower := by
  have all : ∀ n < 128, ∀ v ∈ hexValue? (Char.ofNat n), v < 16 ∧ Hex.digit v = (Char.ofNat n).toLower := by
    decide +kernel
  have here := all c.toNat (lt_of_hexValue? h)
  rw [Char.ofNat_toNat] at here
  exact here v h

theorem isBlank_of_hexValue? {c : Char} {v : Nat} (h : hexValue? c = some v) : isBlank c = false := by
  have all : ∀ n < 128, hexValue? (Char.ofNat n) ≠ none → isBlank (Char.ofNat n) = false := by decide
  have here := all c.toNat (lt_of_hexValue? h)
  rw [Char.ofNat_toNat] at here
  exact here (by rw [h]; nofun)

theorem hexValue?_digit {n : Nat} (h : n < 16) : hexValue? (Hex.digit n) = some n := by
  have all : ∀ n < 16, hexValue? (Hex.digit n) = some n := by decide
  exact all n h

theorem utf8EncodeChar_of_lt {c : Char} (low : c.toNat < 128) : String.utf8EncodeChar c = [UInt8.ofNat c.toNat] :=
  if_pos (Nat.le_of_lt_succ low)

theorem value?_of_high {b : UInt8} (high : 128 ≤ b.toNat) : Hex.value? b = none := by
  simp only [Hex.value?]
  rw [if_neg (by omega), if_neg (by omega), if_neg (by omega)]

/-- The UTF-8 form of a character of more than one byte begins above all digits. -/
theorem utf8EncodeChar_of_le {c : Char} (high : 128 ≤ c.toNat) :
    ∃ b rest, String.utf8EncodeChar c = b :: rest ∧ 128 ≤ b.toNat := by
  have long : ¬c.val.toNat ≤ 127 := Nat.not_le.2 high
  simp only [String.utf8EncodeChar, if_neg long]
  split
  · exact ⟨_, _, rfl, by rw [UInt8.toNat_ofNat']; omega⟩
  · split
    · exact ⟨_, _, rfl, by rw [UInt8.toNat_ofNat']; omega⟩
    · exact ⟨_, _, rfl, by rw [UInt8.toNat_ofNat']; omega⟩

theorem utf8EncodeChar_of_not_digit {c : Char} (other : hexValue? c = none) :
    ∃ b rest, String.utf8EncodeChar c = b :: rest ∧ Hex.value? b = none := by
  by_cases low : c.toNat < 128
  · refine ⟨_, [], utf8EncodeChar_of_lt low, ?_⟩
    rw [Hex.value?_eq, UInt8.toNat_ofNat', Nat.mod_eq_of_lt (by omega), Char.ofNat_toNat]
    exact other
  · obtain ⟨b, rest, encoded, high⟩ := utf8EncodeChar_of_le (Nat.le_of_not_lt low)
    exact ⟨b, rest, encoded, value?_of_high high⟩

/-- Pairs of digits of either case, and the bytes that they are written for. -/
inductive Spells : List Char → Bytes → Prop
  | nil : Spells [] []
  | cons {a b : Char} {high low : Nat} {s : List Char} {bytes : Bytes} (first : hexValue? a = some high)
      (second : hexValue? b = some low) (later : Spells s bytes) :
      Spells (a :: b :: s) (UInt8.ofNat (16 * high + low) :: bytes)

theorem utf8_of_hexValue? {c : Char} {v : Nat} (h : hexValue? c = some v) (s : List Char) :
    utf8 (c :: s) = UInt8.ofNat c.toNat :: utf8 s ∧ Hex.value? (UInt8.ofNat c.toNat) = some v := by
  have low := lt_of_hexValue? h
  refine ⟨congrArg (· ++ utf8 s) (utf8EncodeChar_of_lt low), ?_⟩
  rw [Hex.value?_eq, UInt8.toNat_ofNat', Nat.mod_eq_of_lt (by omega), Char.ofNat_toNat]
  exact h

namespace Spells

variable {s : List Char} {b : Bytes}

theorem length_eq (h : Spells s b) : s.length = 2 * b.length := by
  induction h with
  | nil => rfl
  | cons _ _ _ ih =>
      simp only [List.length_cons, ih]
      omega

theorem decodePairs (h : Spells s b) (position : Nat) : Hex.decodePairs position (utf8 s) = .ok b := by
  induction h generalizing position with
  | nil => rfl
  | @cons c d high low s bytes first second later ih =>
      obtain ⟨encoded, value⟩ := utf8_of_hexValue? first (d :: s)
      obtain ⟨encoded', value'⟩ := utf8_of_hexValue? second s
      simp only [encoded, encoded', Hex.decodePairs, Hex.decodeDigit, value, value', ih]
      rfl

theorem length_utf8 (h : Spells s b) : (utf8 s).length = 2 * b.length := by
  induction h with
  | nil => rfl
  | @cons c d high low s bytes first second later ih =>
      rw [(utf8_of_hexValue? first _).1, (utf8_of_hexValue? second _).1]
      simp only [List.length_cons, ih]
      omega

theorem not_blank (h : Spells s b) : ∀ c ∈ s, isBlank c = false := by
  induction h with
  | nil => exact nofun
  | cons first second _ ih =>
      exact List.forall_mem_cons.2 ⟨isBlank_of_hexValue? first, List.forall_mem_cons.2 ⟨isBlank_of_hexValue? second, ih⟩⟩

theorem encode (h : Spells s b) : Hex.encode b = s.map Char.toLower := by
  induction h with
  | nil => rfl
  | @cons c d high low s bytes first second later ih =>
      obtain ⟨small, same⟩ := digit_of_hexValue? first
      obtain ⟨small', same'⟩ := digit_of_hexValue? second
      have value : (UInt8.ofNat (16 * high + low)).toNat = 16 * high + low := by
        rw [UInt8.toNat_ofNat']
        omega
      have upper : (16 * high + low) / 16 = high := by omega
      have lower : (16 * high + low) % 16 = low := by omega
      rw [Hex.encode, List.flatMap_cons, ← Hex.encode, ih, Hex.encodeByte, value, upper, lower, same, same']
      rfl

end Spells

theorem spells_encode (b : Bytes) : Spells (Hex.encode b) b := by
  induction b with
  | nil => exact .nil
  | cons x b ih =>
      have small : x.toNat < 256 := x.toNat_lt
      have first : hexValue? (Hex.digit (x.toNat / 16)) = some (x.toNat / 16) := hexValue?_digit (by omega)
      have second : hexValue? (Hex.digit (x.toNat % 16)) = some (x.toNat % 16) := hexValue?_digit (by omega)
      have whole := Spells.cons first second ih
      rw [Nat.div_add_mod, UInt8.ofNat_toNat] at whole
      exact whole

theorem exists_spells : ∀ {s : List Char}, (∀ c ∈ s, hexValue? c ≠ none) → s.length % 2 = 0 → ∃ b, Spells s b
  | [], _, _ => ⟨[], .nil⟩
  | [_], _, even => absurd even Nat.one_ne_zero
  | c :: d :: s, digits, even => by
      obtain ⟨first, later⟩ := List.forall_mem_cons.1 digits
      obtain ⟨second, later⟩ := List.forall_mem_cons.1 later
      obtain ⟨high, first⟩ := Option.ne_none_iff_exists'.1 first
      obtain ⟨low, second⟩ := Option.ne_none_iff_exists'.1 second
      rw [List.length_cons, List.length_cons] at even
      obtain ⟨b, spells⟩ := exists_spells later (by omega)
      exact ⟨_, .cons first second spells⟩

/-- What the bytes of a text are: those of its digits, or digits up to a byte that is none. -/
theorem utf8_cases (s : List Char) :
    ((∀ c ∈ s, hexValue? c ≠ none) ∧ (utf8 s).length = s.length) ∨
      ∃ before byte after, utf8 s = before ++ byte :: after ∧ (∀ x ∈ before, Hex.value? x ≠ none) ∧
        Hex.value? byte = none := by
  induction s with
  | nil => exact .inl ⟨nofun, rfl⟩
  | cons c s ih =>
      cases digit : hexValue? c with
      | none =>
          obtain ⟨byte, rest, encoded, bad⟩ := utf8EncodeChar_of_not_digit digit
          refine .inr ⟨[], byte, rest ++ utf8 s, ?_, nofun, bad⟩
          rw [utf8, List.flatMap_cons, encoded]
          rfl
      | some v =>
          obtain ⟨encoded, value⟩ := utf8_of_hexValue? digit s
          rcases ih with ⟨digits, length⟩ | ⟨before, byte, after, whole, digits, bad⟩
          · refine .inl ⟨List.forall_mem_cons.2 ⟨by rw [digit]; nofun, digits⟩, ?_⟩
            rw [encoded, List.length_cons, List.length_cons, length]
          · refine .inr ⟨UInt8.ofNat c.toNat :: before, byte, after, ?_, List.forall_mem_cons.2 ⟨?_, digits⟩, bad⟩
            · rw [encoded, whole]
              rfl
            · rw [value]
              nofun

namespace Hex

theorem decodeDigit_of_ne_none {x : UInt8} (digit : value? x ≠ none) (position : Nat) :
    ∃ v, decodeDigit x position = .ok v := by
  obtain ⟨v, value⟩ := Option.ne_none_iff_exists'.1 digit
  exact ⟨v, by rw [decodeDigit, value]⟩

theorem decodeDigit_of_none {x : UInt8} (bad : value? x = none) (position : Nat) :
    decodeDigit x position = .error (.notDigit x position) := by
  rw [decodeDigit, bad]

/-- Digits come in pairs, so that the first byte that is none may be either of a pair. -/
theorem decodePairs_of_not_digit {byte : UInt8} (bad : value? byte = none) (after : Bytes) :
    ∀ {before : Bytes} (position : Nat), (before ++ byte :: after).length % 2 = 0 → (∀ x ∈ before, value? x ≠ none) →
      decodePairs position (before ++ byte :: after) = .error (.notDigit byte (position + before.length))
  | [], position, even, _ => by
      cases after with
      | nil => exact absurd even Nat.one_ne_zero
      | cons y after =>
          simp only [List.nil_append, decodePairs, decodeDigit_of_none bad]
          rfl
  | [x], position, _, digits => by
      obtain ⟨v, read⟩ := decodeDigit_of_ne_none (digits x List.mem_cons_self) position
      simp only [List.cons_append, List.nil_append, decodePairs, read, decodeDigit_of_none bad]
      rfl
  | x :: y :: before, position, even, digits => by
      obtain ⟨first, later⟩ := List.forall_mem_cons.1 digits
      obtain ⟨second, later⟩ := List.forall_mem_cons.1 later
      obtain ⟨v, read⟩ := decodeDigit_of_ne_none first position
      obtain ⟨w, read'⟩ := decodeDigit_of_ne_none second (position + 1)
      rw [List.cons_append, List.cons_append, List.length_cons, List.length_cons] at even
      have even' : (before ++ byte :: after).length % 2 = 0 := by omega
      have rest := decodePairs_of_not_digit bad after (position + 2) even' later
      have place : position + (before.length + 1 + 1) = position + 2 + before.length := by omega
      simp only [List.cons_append, decodePairs, read, read', rest, List.length_cons, place]
      rfl

/-- What comes of reading a text of digits, judged first by the count of its bytes and then by the first byte that is no
digit. -/
inductive Decodes (s : List Char) : Except Error Bytes → Prop
  | ok {b : Bytes} (spells : Spells s b) : Decodes s (.ok b)
  | oddLength (odd : (utf8 s).length % 2 = 1) : Decodes s (.error .oddLength)
  | notDigit {before : Bytes} {byte : UInt8} {after : Bytes} (even : (utf8 s).length % 2 = 0)
      (whole : utf8 s = before ++ byte :: after) (digits : ∀ x ∈ before, hexValue? (Char.ofNat x.toNat) ≠ none)
      (bad : hexValue? (Char.ofNat byte.toNat) = none) : Decodes s (.error (.notDigit byte before.length))

theorem decodes_decode (s : List Char) : Decodes s (decode (utf8 s)) := by
  by_cases odd : (utf8 s).length % 2 = 1
  · rw [decode, if_pos odd]
    exact .oddLength odd
  · have even : (utf8 s).length % 2 = 0 := by omega
    rw [decode, if_neg odd]
    rcases utf8_cases s with ⟨digits, length⟩ | ⟨before, byte, after, whole, digits, bad⟩
    · obtain ⟨b, spells⟩ := exists_spells digits (length ▸ even)
      rw [spells.decodePairs]
      exact .ok spells
    · rw [whole] at even ⊢
      rw [decodePairs_of_not_digit bad after 0 even digits, Nat.zero_add]
      simp only [value?_eq] at digits bad
      exact .notDigit (whole ▸ even) whole digits bad

theorem Decodes.eq_decode {s : List Char} {r : Except Error Bytes} (h : Decodes s r) : decode (utf8 s) = r := by
  cases h with
  | ok spells =>
      have even : ¬(utf8 s).length % 2 = 1 := by
        rw [spells.length_utf8]
        omega
      rw [decode, if_neg even, spells.decodePairs]
  | oddLength odd => rw [decode, if_pos odd]
  | notDigit even whole digits bad =>
      have even' : ¬(utf8 s).length % 2 = 1 := by omega
      simp only [← value?_eq] at digits bad
      rw [whole] at even
      rw [decode, if_neg even', whole, decodePairs_of_not_digit bad _ 0 even digits, Nat.zero_add]

end Hex
end NoiseLink.Text
