namespace NoiseLink.Calls

variable {σ κ α : Type} (call : σ → κ → α × σ)

def run (s : σ) (calls : List κ) : σ := calls.foldl (fun s c => (call s c).2) s

def answers (s : σ) : List κ → List (κ × α)
  | [] => []
  | c :: calls => (c, (call s c).1) :: answers (call s c).2 calls

theorem run_append (s : σ) (calls later : List κ) : run call s (calls ++ later) = run call (run call s calls) later :=
  List.foldl_append

theorem answers_append (s : σ) (calls later : List κ) :
    answers call s (calls ++ later) = answers call s calls ++ answers call (run call s calls) later := by
  induction calls generalizing s with
  | nil => rfl
  | cons c calls ih => exact congrArg (List.cons _) (ih _)

theorem answers_concat (s : σ) (calls : List κ) (c : κ) :
    answers call s (calls ++ [c]) = answers call s calls ++ [(c, (call (run call s calls) c).1)] :=
  answers_append call s calls [c]

theorem run_concat (s : σ) (calls : List κ) (c : κ) : run call s (calls ++ [c]) = (call (run call s calls) c).2 :=
  run_append call s calls [c]

/-- What no call of a run ends holds after it, and what each call shows from there every answer shows. -/
theorem preserved (calls : List κ) (P : σ → Prop) (Q : κ → α → Prop)
    (step : ∀ s, P s → ∀ c ∈ calls, Q c (call s c).1 ∧ P (call s c).2) {s : σ} (start : P s) :
    (∀ x ∈ answers call s calls, Q x.1 x.2) ∧ P (run call s calls) := by
  induction calls generalizing s with
  | nil => exact ⟨by simp [answers], start⟩
  | cons c calls ih =>
      obtain ⟨here, next⟩ := step s start c List.mem_cons_self
      obtain ⟨later, last⟩ := ih (fun s hs c mem => step s hs c (List.mem_cons_of_mem _ mem)) next
      exact ⟨List.forall_mem_cons.2 ⟨here, later⟩, last⟩

theorem map_fst_answers (s : σ) (calls : List κ) : (answers call s calls).map Prod.fst = calls := by
  induction calls generalizing s with
  | nil => rfl
  | cons c calls ih => exact congrArg (List.cons c) (ih _)

variable {call}

/-- A mark that some calls leave by what they are answered, and that no call takes away. -/
theorem flagged {P M : σ → Prop} {Q : κ × α → Prop}
    (step : ∀ s, P s → ∀ c, P (call s c).2 ∧ (M (call s c).2 ↔ M s ∨ Q (c, (call s c).1))) {s : σ} (start : P s)
    (calls : List κ) : P (run call s calls) ∧ (M (run call s calls) ↔ M s ∨ ∃ x ∈ answers call s calls, Q x) := by
  induction calls generalizing s with
  | nil => exact ⟨start, by simp [run, answers]⟩
  | cons c calls ih =>
      obtain ⟨next, marks⟩ := step s start c
      obtain ⟨last, rest⟩ := ih next
      refine ⟨last, ?_⟩
      simp only [answers, List.mem_cons, or_and_right, exists_or, exists_eq_left]
      rw [← or_assoc, ← marks]
      exact rest

theorem marked {P M : σ → Prop} {mark : κ}
    (step : ∀ s, P s → ∀ c, P (call s c).2 ∧ (M (call s c).2 ↔ M s ∨ c = mark)) {s : σ} (start : P s) (calls : List κ) :
    P (run call s calls) ∧ (M (run call s calls) ↔ M s ∨ mark ∈ calls) := by
  obtain ⟨last, marks⟩ := flagged (Q := fun x : κ × α => x.1 = mark) step start calls
  refine ⟨last, marks.trans (or_congr_right ?_)⟩
  rw [← map_fst_answers call s calls, List.mem_map, map_fst_answers]

theorem idle {s : σ} {a : α} (refuses : ∀ c, call s c = (a, s)) (calls : List κ) :
    run call s calls = s ∧ ∀ x ∈ answers call s calls, x.2 = a := by
  have kept := preserved call calls (· = s) (fun _ b => b = a)
    (by
      rintro _ rfl c _
      rw [refuses c]
      exact ⟨rfl, rfl⟩) rfl
  exact ⟨kept.2, kept.1⟩

/-- What shows of a thing is a thing of its own, if each call does to the one what it does to the other. -/
theorem seen {ρ : Type} {call' : ρ → κ → α × ρ} (view : ρ → σ)
    (same : ∀ r c, ((call' r c).1, view (call' r c).2) = call (view r) c) (r : ρ) (calls : List κ) :
    answers call' r calls = answers call (view r) calls ∧ view (run call' r calls) = run call (view r) calls := by
  induction calls generalizing r with
  | nil => exact ⟨rfl, rfl⟩
  | cons c calls ih =>
      obtain ⟨later, last⟩ := ih (call' r c).2
      rw [answers, answers, run, run, List.foldl_cons, List.foldl_cons, ← same r c]
      exact ⟨congrArg (List.cons _) later, last⟩

section Steady

variable (call) (refused : κ × α → Bool)

/-- What a run shows, less what it is refused. -/
def shown (s : σ) (calls : List κ) : List (κ × α) := (answers call s calls).filter fun x => !refused x

def granted (s : σ) (calls : List κ) : List κ := (shown call refused s calls).map Prod.fst

/-- Calls that are refused may be left out of a run and put into it, wherever they stand. -/
structure Steady (s : σ) : Prop where
  without : ∀ calls, answers call s (granted call refused s calls) = shown call refused s calls ∧
    run call s (granted call refused s calls) = run call s calls
  within : ∀ before c after, refused (c, (call (run call s before) c).1) = true →
    answers call s (before ++ c :: after) =
      answers call s before ++ (c, (call (run call s before) c).1) :: answers call (run call s before) after ∧
    run call s (before ++ c :: after) = run call s (before ++ after)
  alike : ∀ calls calls', granted call refused s calls = granted call refused s calls' →
    shown call refused s calls = shown call refused s calls' ∧ run call s calls = run call s calls'

variable {call refused} {P : σ → Prop}
  (step : ∀ s, P s → ∀ c, P (call s c).2 ∧ (refused (c, (call s c).1) = true → (call s c).2 = s))
include step

theorem without_refused {s : σ} (start : P s) (calls : List κ) :
    answers call s (granted call refused s calls) = shown call refused s calls ∧
      run call s (granted call refused s calls) = run call s calls := by
  induction calls generalizing s with
  | nil => exact ⟨rfl, rfl⟩
  | cons c calls ih =>
      obtain ⟨next, idle⟩ := step s start c
      obtain ⟨later, last⟩ := ih next
      cases h : refused (c, (call s c).1) with
      | true =>
          rw [idle h] at later last
          have same : shown call refused s (c :: calls) = shown call refused s calls := by
            rw [shown, answers, List.filter_cons_of_neg (by simp [h]), idle h, shown]
          rw [granted, same, ← granted, later, last, run, run, List.foldl_cons, idle h]
          exact ⟨rfl, rfl⟩
      | false =>
          have same : shown call refused s (c :: calls) =
              (c, (call s c).1) :: shown call refused (call s c).2 calls :=
            List.filter_cons_of_pos (by simp [h])
          rw [granted, same, List.map_cons, ← granted]
          exact ⟨congrArg (List.cons _) later, last⟩

theorem steady {s : σ} (start : P s) : Steady call refused s where
  without := without_refused step start
  within before c after h := by
    have kept := preserved call before P (fun _ _ => True) (fun s hs c _ => ⟨trivial, (step s hs c).1⟩) start
    have idle := (step _ kept.2 c).2 h
    have last : run call (run call s before) (c :: after) = run call (run call s before) after :=
      congrArg (run call · after) idle
    rw [answers_append, answers, idle, run_append, run_append, last]
    exact ⟨rfl, rfl⟩
  alike calls calls' same := by
    obtain ⟨answered, last⟩ := without_refused step start calls
    obtain ⟨answered', last'⟩ := without_refused step start calls'
    rw [← answered, ← answered', ← last, ← last', same]
    exact ⟨rfl, rfl⟩

end Steady

section Both

variable {τ μ β : Type} (call₁ : σ → κ → α × σ) (call₂ : τ → μ → β × τ)

def both (s : σ × τ) : κ ⊕ μ → (α ⊕ β) × (σ × τ)
  | .inl c => (.inl (call₁ s.1 c).1, (call₁ s.1 c).2, s.2)
  | .inr c => (.inr (call₂ s.2 c).1, s.1, (call₂ s.2 c).2)

def left? : (κ ⊕ μ) × (α ⊕ β) → Option (κ × α)
  | (.inl c, .inl a) => some (c, a)
  | _ => none

def right? : (κ ⊕ μ) × (α ⊕ β) → Option (μ × β)
  | (.inr c, .inr a) => some (c, a)
  | _ => none

theorem apart (s : σ × τ) (calls : List (κ ⊕ μ)) :
    (answers (both call₁ call₂) s calls).filterMap left? = answers call₁ s.1 (calls.filterMap Sum.getLeft?) ∧
    (answers (both call₁ call₂) s calls).filterMap right? = answers call₂ s.2 (calls.filterMap Sum.getRight?) ∧
    run (both call₁ call₂) s calls =
      (run call₁ s.1 (calls.filterMap Sum.getLeft?), run call₂ s.2 (calls.filterMap Sum.getRight?)) := by
  induction calls generalizing s with
  | nil => exact ⟨rfl, rfl, rfl⟩
  | cons c calls ih =>
      cases c with
      | inl c =>
          obtain ⟨left, right, last⟩ := ih ((call₁ s.1 c).2, s.2)
          exact ⟨congrArg (List.cons _) left, right, last⟩
      | inr c =>
          obtain ⟨left, right, last⟩ := ih (s.1, (call₂ s.2 c).2)
          exact ⟨left, congrArg (List.cons _) right, last⟩

end Both

end NoiseLink.Calls
