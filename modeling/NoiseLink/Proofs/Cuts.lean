import Mathlib.Data.List.Infix

namespace NoiseLink

variable {α : Type}

theorem exists_append_of_le {l : List α} {n : Nat} (h : n ≤ l.length) : ∃ a b, l = a ++ b ∧ a.length = n :=
  ⟨l.take n, l.drop n, (List.take_append_drop n l).symm, List.length_take_of_le h⟩

theorem exists_append_of_length {l : List α} {n k : Nat} (h : l.length = n + k) :
    ∃ a b, l = a ++ b ∧ a.length = n ∧ b.length = k := by
  obtain ⟨a, b, rfl, ha⟩ := exists_append_of_le (h ▸ Nat.le_add_right n k)
  rw [List.length_append, ha] at h
  exact ⟨a, b, rfl, ha, Nat.add_left_cancel h⟩

theorem exists_append_of_append_eq {a b c d : List α} (h : a ++ b = c ++ d) (le : c.length ≤ a.length) :
    ∃ r, a = c ++ r ∧ r ++ b = d := by
  obtain ⟨r, rfl⟩ := List.prefix_of_prefix_length_le (List.prefix_append c d) ⟨b, h⟩ le
  rw [List.append_assoc] at h
  exact ⟨r, rfl, List.append_cancel_left h⟩

theorem short_or_whole {l m a c : List α} (h : l ++ m = a ++ c) (n : Nat) :
    (l ++ m.take n).length < a.length ∧ l ++ m.take n ++ m.drop n = a ++ c ∨
      ∃ r, l ++ m.take n = a ++ r ∧ r ++ m.drop n = c := by
  rw [← List.take_append_drop n m, ← List.append_assoc] at h
  by_cases short : (l ++ m.take n).length < a.length
  · exact .inl ⟨short, h⟩
  · exact .inr (exists_append_of_append_eq h (Nat.le_of_not_lt short))

theorem concat_prefix {l m : List α} {a : α} (h : l <+: m) (ha : m[l.length]? = some a) : l ++ [a] <+: m := by
  obtain ⟨rest, rfl⟩ := h
  rw [List.getElem?_append_right (Nat.le_refl _), Nat.sub_self] at ha
  cases rest with
  | nil => exact absurd ha (by simp)
  | cons b rest =>
      obtain rfl := Option.some.inj ha
      exact ⟨rest, by simp⟩

theorem getElem?_of_concat_prefix {l m : List α} {a : α} (h : l ++ [a] <+: m) : m[l.length]? = some a := by
  obtain ⟨rest, rfl⟩ := h
  simp

theorem prefix_or_exists_ne (l m : List α) : l <+: m ∨ ∃ (t : Nat) (x : α), l[t]? = some x ∧ m[t]? ≠ some x := by
  rw [List.prefix_iff_getElem?]
  by_cases h : ∀ (t : Nat) (lt : t < l.length), m[t]? = some l[t]
  · exact .inl h
  · obtain ⟨t, lt, ne⟩ : ∃ (t : Nat) (lt : t < l.length), m[t]? ≠ some l[t] := by
      simpa using h
    exact .inr ⟨t, l[t], List.getElem?_eq_getElem lt, ne⟩

end NoiseLink
