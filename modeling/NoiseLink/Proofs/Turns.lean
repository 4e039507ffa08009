import Mathlib.Data.List.Nodup
import Mathlib.Data.List.TakeDrop
import NoiseLink.Proofs.Calls
import NoiseLink.Proofs.Rejections

namespace NoiseLink

/-- A side of a handshake as its callers see it. -/
structure Turns (σ κ α : Type) where
  call : σ → κ → Except NoiseError α × σ
  progress : σ → Progress
  act : κ → Progress
  order : List Progress
  Sound : σ → Prop

namespace Turns

open Calls

variable {σ κ α : Type} (M : Turns σ κ α)

def following (n : Nat) : Progress := M.order[n]?.getD .complete

inductive Answered (s : σ) (c : κ) : Except NoiseError α → σ → Prop
  | dead (gone : M.progress s = .aborted) : Answered s c (.error .handshakeAborted) s
  | refused (intact : M.progress s ≠ .aborted) (other : M.progress s ≠ M.act c) :
      Answered s c (.error .unexpectedHandshakeMessage) s
  | accepted {a : α} {s' : σ} {n : Nat} (turn : M.progress s = M.act c) (place : M.order[n]? = some (M.act c))
      (next : M.progress s' = M.following (n + 1)) : Answered s c (.ok a) s'
  | failed {e : NoiseError} {s' : σ} (turn : M.progress s = M.act c) (rejected : e.Rejection)
      (gone : M.progress s' = .aborted) : Answered s c (.error e) s'

structure Lawful : Prop where
  distinct : M.order.Nodup
  complete : .complete ∉ M.order
  aborted : .aborted ∉ M.order
  act_mem : ∀ c, M.act c ∈ M.order
  step : ∀ {s : σ}, M.Sound s → ∀ c, M.Answered s c (M.call s c).1 (M.call s c).2 ∧ M.Sound (M.call s c).2

def accepted (t : List (κ × Except NoiseError α)) : List Progress :=
  t.filterMap fun (c, a) => a.toOption.map fun _ => M.act c

/-- An act has failed. Only an error that refuses a call is none of an act. -/
def Failed (t : List (κ × Except NoiseError α)) : Prop :=
  ∃ c e, (c, .error e) ∈ t ∧ e ≠ .unexpectedHandshakeMessage

section Histories

variable (t : List (κ × Except NoiseError α)) (c : κ)

theorem accepted_concat_ok (a : α) : M.accepted (t ++ [(c, .ok a)]) = M.accepted t ++ [M.act c] := by
  simp [accepted, Except.toOption]

theorem accepted_concat_error (e : NoiseError) : M.accepted (t ++ [(c, .error e)]) = M.accepted t := by
  simp [accepted, Except.toOption]

theorem failed_concat_ok (a : α) : Failed (t ++ [(c, .ok a)]) ↔ Failed t := by
  simp [Failed]

theorem failed_concat_unexpected : Failed (t ++ [(c, .error .unexpectedHandshakeMessage)]) ↔ Failed t := by
  simp only [Failed, List.mem_append, List.mem_singleton]
  constructor
  · rintro ⟨d, e, mem | same, other⟩
    · exact ⟨d, e, mem, other⟩
    · cases same
      exact absurd rfl other
  · rintro ⟨d, e, mem, other⟩
    exact ⟨d, e, .inl mem, other⟩

theorem failed_concat {e : NoiseError} (he : e ≠ .unexpectedHandshakeMessage) : Failed (t ++ [(c, .error e)]) :=
  ⟨c, e, List.mem_append_right _ List.mem_cons_self, he⟩

end Histories

/-- Where a side stands after a run: so many acts are done and the next one is awaited, or else one has failed. -/
inductive Stands : List (κ × Except NoiseError α) → σ → Prop
  | running {t : List (κ × Except NoiseError α)} {s : σ} {n : Nat} (le : n ≤ M.order.length)
      (done : M.accepted t = M.order.take n) (intact : ¬Failed t) (next : M.progress s = M.following n) : Stands t s
  | aborted {t : List (κ × Except NoiseError α)} {s : σ} {n : Nat} (lt : n < M.order.length)
      (done : M.accepted t = M.order.take n) (failed : Failed t) (gone : M.progress s = .aborted) : Stands t s

variable {M} (lawful : M.Lawful)
include lawful

namespace Lawful

theorem answered {s : σ} (sound : M.Sound s) (c : κ) : M.Answered s c (M.call s c).1 (M.call s c).2 :=
  (lawful.step sound c).1

theorem following_ne_aborted (n : Nat) : M.following n ≠ .aborted := by
  rw [following]
  cases h : M.order[n]? with
  | none => exact nofun
  | some p =>
      rintro rfl
      exact lawful.aborted (List.mem_of_getElem? h)

theorem following_eq_act_iff {n : Nat} {c : κ} : M.following n = M.act c ↔ M.order[n]? = some (M.act c) := by
  rw [following]
  cases h : M.order[n]? with
  | none =>
      constructor
      · intro same
        exact absurd (lawful.act_mem c) (same ▸ lawful.complete)
      · exact nofun
  | some p => exact Option.some_inj.symm

theorem place_unique {n k : Nat} {p : Progress} (hn : M.order[n]? = some p) (hk : M.order[k]? = some p) : n = k := by
  obtain ⟨lt, here⟩ := List.getElem?_eq_some_iff.1 hn
  obtain ⟨lt', there⟩ := List.getElem?_eq_some_iff.1 hk
  exact (List.Nodup.getElem_inj_iff lawful.distinct).1 (here.trans there.symm)

theorem call_aborted {s : σ} (sound : M.Sound s) (gone : M.progress s = .aborted) (c : κ) :
    M.call s c = (.error .handshakeAborted, s) := by
  have answered := lawful.answered sound c
  generalize M.call s c = r at answered
  obtain ⟨a, s'⟩ := r
  cases answered with
  | dead => rfl
  | refused intact other => exact absurd gone intact
  | accepted turn place next | failed turn rejected gone' =>
      exact absurd (lawful.act_mem c) (turn ▸ gone ▸ lawful.aborted)

theorem call_refused {s : σ} (sound : M.Sound s) (intact : M.progress s ≠ .aborted) {c : κ}
    (other : M.progress s ≠ M.act c) : M.call s c = (.error .unexpectedHandshakeMessage, s) := by
  have answered := lawful.answered sound c
  generalize M.call s c = r at answered
  obtain ⟨a, s'⟩ := r
  cases answered with
  | dead gone => exact absurd gone intact
  | refused => rfl
  | accepted turn place next | failed turn rejected gone => exact absurd turn other

theorem turn_of_rejection {s : σ} (sound : M.Sound s) {c : κ} {e : NoiseError} (rejected : e.Rejection)
    (h : (M.call s c).1 = .error e) : M.progress s = M.act c := by
  have answered := lawful.answered sound c
  generalize M.call s c = r at answered h
  obtain ⟨a, s'⟩ := r
  cases h
  cases answered with
  | dead | refused => cases rejected
  | failed turn => exact turn

end Lawful

theorem Stands.call {t : List (κ × Except NoiseError α)} {s : σ} (sound : M.Sound s) (h : M.Stands t s) (c : κ) :
    M.Stands (t ++ [(c, (M.call s c).1)]) (M.call s c).2 := by
  cases h with
  | @running n le done intact next =>
      have answered := lawful.answered sound c
      generalize M.call s c = r at answered
      obtain ⟨a, s'⟩ := r
      cases answered with
      | dead gone => exact absurd (next.symm.trans gone) (lawful.following_ne_aborted n)
      | refused _ other =>
          refine .running le ?_ ?_ next
          · rw [accepted_concat_error, done]
          · rwa [failed_concat_unexpected]
      | @accepted a _ k turn place next' =>
          have here : M.order[n]? = some (M.act c) := lawful.following_eq_act_iff.1 (next.symm.trans turn)
          obtain rfl := lawful.place_unique here place
          obtain ⟨lt, there⟩ := List.getElem?_eq_some_iff.1 here
          refine .running lt ?_ ?_ next'
          · rw [accepted_concat_ok, done, ← there, List.take_concat_get']
          · rwa [failed_concat_ok]
      | failed turn rejected gone =>
          have here : M.order[n]? = some (M.act c) := lawful.following_eq_act_iff.1 (next.symm.trans turn)
          obtain ⟨lt, -⟩ := List.getElem?_eq_some_iff.1 here
          refine .aborted lt ?_ (failed_concat t c rejected.ne_unexpected) gone
          rw [accepted_concat_error, done]
  | aborted lt done failed gone =>
      rw [lawful.call_aborted sound gone]
      refine .aborted lt ?_ (failed_concat t c nofun) gone
      rw [accepted_concat_error, done]

theorem stands_run {s : σ} (sound : M.Sound s) (first : M.progress s = M.following 0) (calls : List κ) :
    M.Stands (answers M.call s calls) (run M.call s calls) ∧ M.Sound (run M.call s calls) := by
  -- the last call comes on top of where the calls before it have led
  induction calls using List.reverseRecOn with
  | nil => exact ⟨.running (Nat.zero_le _) rfl (by simp [Failed, answers]) first, sound⟩
  | append_singleton calls c ih =>
      obtain ⟨stands, sound⟩ := ih
      rw [answers_concat, run_concat]
      exact ⟨stands.call lawful sound c, (lawful.step sound c).2⟩

omit lawful

def HasTurn (M : Turns σ κ α) (t : List (κ × Except NoiseError α)) (c : κ) : Prop :=
  M.order[(M.accepted t).length]? = some (M.act c)

/-- What every run of calls shows, where `t` are its answers and `run M.call s calls` is the side after it. -/
structure Orderly (M : Turns σ κ α) (s : σ) (calls : List κ) (t : List (κ × Except NoiseError α)) : Prop where
  inOrder : M.accepted t <+: M.order
  inTurn : ∀ c, ¬Failed t → M.HasTurn t c →
    (∃ a, (M.call (run M.call s calls) c).1 = .ok a) ∨
      ∃ e, NoiseError.Rejection e ∧ (M.call (run M.call s calls) c).1 = .error e
  outOfTurn : ∀ c, ¬Failed t → ¬M.HasTurn t c →
    M.call (run M.call s calls) c = (.error .unexpectedHandshakeMessage, run M.call s calls)
  /-- Calls out of turn may be put in anywhere. -/
  inserted : ∀ c later, ¬Failed t → ¬M.HasTurn t c →
    ∃ rest, answers M.call s (calls ++ later) = t ++ rest ∧
      answers M.call s (calls ++ c :: later) = t ++ (c, .error .unexpectedHandshakeMessage) :: rest ∧
      run M.call s (calls ++ c :: later) = run M.call s (calls ++ later)
  afterFailure : Failed t → ∀ later, ∀ x ∈ answers M.call (run M.call s calls) later, x.2 = .error .handshakeAborted
  afterCompletion : M.accepted t = M.order → ¬Failed t ∧ ∀ later, run M.call (run M.call s calls) later = run M.call s calls ∧
    ∀ x ∈ answers M.call (run M.call s calls) later, x.2 = .error .unexpectedHandshakeMessage

section Standing

variable {t : List (κ × Except NoiseError α)} {s : σ}

theorem hasTurn_iff {n : Nat} (le : n ≤ M.order.length) (done : M.accepted t = M.order.take n) (c : κ) :
    M.HasTurn t c ↔ M.order[n]? = some (M.act c) := by
  rw [HasTurn, done, List.length_take_of_le le]

theorem Stands.call_of_not_hasTurn (lawful : M.Lawful) (sound : M.Sound s) (h : M.Stands t s) (intact : ¬Failed t)
    {c : κ} (other : ¬M.HasTurn t c) : M.call s c = (.error .unexpectedHandshakeMessage, s) := by
  cases h with
  | @running n le done _ next =>
      rw [hasTurn_iff le done, ← lawful.following_eq_act_iff, ← next] at other
      refine lawful.call_refused sound ?_ other
      rw [next]
      exact lawful.following_ne_aborted n
  | aborted lt done failed gone => exact absurd failed intact

theorem Stands.call_of_hasTurn (lawful : M.Lawful) (sound : M.Sound s) (h : M.Stands t s) (intact : ¬Failed t)
    {c : κ} (turn : M.HasTurn t c) :
    (∃ a, (M.call s c).1 = .ok a) ∨ ∃ e, NoiseError.Rejection e ∧ (M.call s c).1 = .error e := by
  cases h with
  | @running n le done _ next =>
      rw [hasTurn_iff le done, ← lawful.following_eq_act_iff, ← next] at turn
      have answered := lawful.answered sound c
      generalize M.call s c = r at answered
      obtain ⟨a, s'⟩ := r
      cases answered with
      | dead gone => exact absurd (next.symm.trans gone) (lawful.following_ne_aborted n)
      | refused _ other => exact absurd turn other
      | accepted => exact .inl ⟨_, rfl⟩
      | failed _ rejected => exact .inr ⟨_, rejected, rfl⟩
  | aborted lt done failed gone => exact absurd failed intact

theorem Stands.accepted_prefix (h : M.Stands t s) : M.accepted t <+: M.order := by
  cases h with
  | running _ done | aborted _ done =>
      rw [done]
      exact List.take_prefix _ _

theorem Stands.refuses_of_complete (lawful : M.Lawful) (sound : M.Sound s) (h : M.Stands t s)
    (complete : M.accepted t = M.order) : ¬Failed t ∧ ∀ c, M.call s c = (.error .unexpectedHandshakeMessage, s) := by
  have intact : ¬Failed t := by
    cases h with
    | running _ _ intact => exact intact
    | aborted lt done =>
        rw [done] at complete
        have size := congrArg List.length complete
        rw [List.length_take_of_le lt.le] at size
        exact absurd size lt.ne
  refine ⟨intact, fun c => h.call_of_not_hasTurn lawful sound intact ?_⟩
  rw [HasTurn, complete, List.getElem?_eq_none (Nat.le_refl _)]
  exact nofun

end Standing

theorem orderly (lawful : M.Lawful) {s : σ} (sound : M.Sound s) (first : M.progress s = M.following 0)
    (calls : List κ) : M.Orderly s calls (answers M.call s calls) := by
  obtain ⟨stands, sound⟩ := stands_run lawful sound first calls
  refine ⟨stands.accepted_prefix, ?_, ?_, ?_, ?_, ?_⟩
  · intro c intact turn
    exact stands.call_of_hasTurn lawful sound intact turn
  · intro c intact other
    exact stands.call_of_not_hasTurn lawful sound intact other
  · intro c later intact other
    have refused := stands.call_of_not_hasTurn lawful sound intact other
    refine ⟨answers M.call (run M.call s calls) later, answers_append M.call s calls later, ?_, ?_⟩
    · rw [answers_append, answers, refused]
    · rw [run_append, run_append, run, List.foldl_cons, refused]
      rfl
  · intro failed later
    cases stands with
    | running _ _ intact => exact absurd failed intact
    | aborted _ _ _ gone => exact (idle (lawful.call_aborted sound gone) later).2
  · intro complete
    obtain ⟨intact, refuses⟩ := stands.refuses_of_complete lawful sound complete
    exact ⟨intact, idle refuses⟩

end Turns
end NoiseLink
