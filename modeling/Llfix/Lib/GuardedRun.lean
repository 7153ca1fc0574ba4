import Mathlib.Data.List.Basic
import Mathlib.Data.List.Infix

/-!
# Guarded runs

A deterministic machine takes its next state from `step : σ → ε → σ`. A list of events drives
it, and `Guarded step ok s es` says that `ok` holds of every event and the state it meets.

The same notion serves twice. With `step` the machine itself it is a condition on a run. With
`step` a monitor that reads a log of outputs it is a safety property of that log: no entry is
bad at the place where it stands.

Results:
1. `Guarded.invariant`: what every guarded step keeps holds along the whole run.
2. `guarded_append`: the guard of a run is the guard of its parts.
3. `holds_run_iff`: a property that is never regained holds at the end exactly for guarded runs.
4. `everywhere_iff`: a property holds in every state reached exactly for guarded runs.
5. `holds_at_end_iff`: so does a property at the end that is never regained.
6. `guarded_iff_of_simulation`: a guard may be read off a simpler machine.
7. `foldlM_eq_run`: a partial step that is defined where an invariant holds.
8. `final_of_progress`: a machine whose index grows below a bound ends within the bound.
-/

namespace GuardedRun

variable {σ ε : Type*} {step : σ → ε → σ} {ok : σ → ε → Prop}

/-- The state after the events. -/
def run (step : σ → ε → σ) (s : σ) (es : List ε) : σ := es.foldl step s

/-- Every event is allowed in the state it meets. -/
def Guarded (step : σ → ε → σ) (ok : σ → ε → Prop) : σ → List ε → Prop
  | _, [] => True
  | s, e :: es => ok s e ∧ Guarded step ok (step s e) es

@[simp] theorem run_nil (s : σ) : run step s [] = s := rfl

@[simp] theorem run_cons (s : σ) (e : ε) (es : List ε) :
    run step s (e :: es) = run step (step s e) es := rfl

theorem run_append (s : σ) (es es' : List ε) :
    run step s (es ++ es') = run step (run step s es) es' := by
  simp only [run, List.foldl_append]

@[simp] theorem guarded_nil (s : σ) : Guarded step ok s [] := trivial

@[simp] theorem guarded_cons {s : σ} {e : ε} {es : List ε} :
    Guarded step ok s (e :: es) ↔ ok s e ∧ Guarded step ok (step s e) es := Iff.rfl

instance decidableGuarded [∀ s e, Decidable (ok s e)] :
    ∀ (s : σ) (es : List ε), Decidable (Guarded step ok s es)
  | _, [] => inferInstanceAs (Decidable True)
  | s, e :: es =>
    have := decidableGuarded (step s e) es
    inferInstanceAs (Decidable (ok s e ∧ Guarded step ok (step s e) es))

theorem guarded_append {s : σ} {es es' : List ε} :
    Guarded step ok s (es ++ es') ↔
      Guarded step ok s es ∧ Guarded step ok (run step s es) es' := by
  induction es generalizing s with
  | nil => simp
  | cons e es ih => simp [ih, and_assoc]

theorem Guarded.initial {s : σ} {es pre : List ε} (h : Guarded step ok s es)
    (hpre : List.IsPrefix pre es) : Guarded step ok s pre := by
  obtain ⟨rest, rfl⟩ := hpre
  exact (guarded_append.mp h).1

theorem Guarded.mono {ok' : σ → ε → Prop} (himp : ∀ s e, ok s e → ok' s e) {s : σ}
    {es : List ε} (h : Guarded step ok s es) : Guarded step ok' s es := by
  induction es generalizing s with
  | nil => trivial
  | cons e es ih => exact ⟨himp s e h.1, ih h.2⟩

/-- The invariant rule. -/
theorem Guarded.invariant {I : σ → Prop} (hstep : ∀ s e, I s → ok s e → I (step s e)) {s : σ}
    {es : List ε} (hs : I s) (h : Guarded step ok s es) : I (run step s es) := by
  induction es generalizing s with
  | nil => exact hs
  | cons e es ih => exact ih (hstep s e hs h.1) h.2

/-- The invariant rule for a machine without a guard. -/
theorem run_invariant {I : σ → Prop} (hstep : ∀ s e, I s → I (step s e)) {s : σ}
    (es : List ε) (hs : I s) : I (run step s es) := by
  induction es generalizing s with
  | nil => exact hs
  | cons e es ih => exact ih (hstep s e hs)

/-- A property that, once lost, stays lost holds at the end of a run exactly when every step on
the way keeps it. -/
theorem holds_run_iff (I : σ → Prop) {P : σ → Prop} (hstep : ∀ s e, I s → I (step s e))
    (hback : ∀ s e, I s → P (step s e) → P s)
    (hkeep : ∀ s e, I s → P s → (P (step s e) ↔ ok s e)) {s : σ} (es : List ε) (hs : I s)
    (hP : P s) : P (run step s es) ↔ Guarded step ok s es := by
  have hbacks : ∀ (es : List ε) (s : σ), I s → P (run step s es) → P s := by
    intro es
    induction es with
    | nil => exact fun _ _ h => h
    | cons e es ih => exact fun s hs h => hback s e hs (ih _ (hstep s e hs) h)
  induction es generalizing s with
  | nil => exact iff_of_true hP trivial
  | cons e es ih =>
    rw [run_cons, guarded_cons]
    constructor
    · intro h
      have hok := (hkeep s e hs hP).mp (hbacks es _ (hstep s e hs) h)
      exact ⟨hok, (ih (hstep s e hs) ((hkeep s e hs hP).mpr hok)).mp h⟩
    · rintro ⟨hok, h⟩
      exact (ih (hstep s e hs) ((hkeep s e hs hP).mpr hok)).mpr h

/-- A property holds in every state reached exactly when every step on the way keeps it. -/
theorem everywhere_iff (I : σ → Prop) {P : σ → Prop}
    (hstep : ∀ s e, I s → P (step s e) → I (step s e))
    (hkeep : ∀ s e, I s → P s → (P (step s e) ↔ ok s e)) {s : σ} (es : List ε) (hs : I s)
    (hP : P s) : (∀ done, done <+: es → P (run step s done)) ↔ Guarded step ok s es := by
  induction es generalizing s with
  | nil =>
    refine iff_of_true (fun done hdone => ?_) trivial
    rw [List.prefix_nil.mp hdone]
    exact hP
  | cons e es ih =>
    rw [guarded_cons, ← hkeep s e hs hP]
    constructor
    · intro hall
      have hafter : P (step s e) := hall [e] (List.prefix_append _ _)
      refine ⟨hafter, (ih (hstep s e hs hafter) hafter).mp fun done hdone => ?_⟩
      exact hall (e :: done) (List.cons_prefix_cons.mpr ⟨rfl, hdone⟩)
    · rintro ⟨hafter, hrest⟩ done hdone
      cases done with
      | nil => exact hP
      | cons e' done =>
        obtain ⟨rfl, hdone'⟩ := List.cons_prefix_cons.mp hdone
        exact (ih (hstep s _ hs hafter) hafter).mpr hrest done hdone'

/-- A property that is never regained holds at the end exactly when every step keeps it. Here the
invariant need not outlive the property. -/
theorem holds_at_end_iff (I P : σ → Prop) (hback : ∀ s e, P (step s e) → P s)
    (hstep : ∀ s e, I s → P (step s e) → I (step s e))
    (hkeep : ∀ s e, I s → P s → (P (step s e) ↔ ok s e)) {s : σ} (es : List ε) (hs : I s)
    (hP : P s) : P (run step s es) ↔ Guarded step ok s es := by
  have hbacks : ∀ (es : List ε) (s : σ), P (run step s es) → P s := by
    intro es
    induction es with
    | nil => exact fun _ h => h
    | cons e es ih => exact fun s h => hback s e (ih _ h)
  rw [← everywhere_iff I hstep hkeep es hs hP]
  constructor
  · rintro h done ⟨rest, rfl⟩
    rw [run_append] at h
    exact hbacks rest _ h
  · exact fun h => h es (List.prefix_refl _)

/-- Two machines in step, whose guards agree, are guarded together. -/
theorem guarded_iff_of_simulation {τ : Type*} {step' : τ → ε → τ} {ok' : τ → ε → Prop}
    (R : σ → τ → Prop) (hok : ∀ s t e, R s t → (ok s e ↔ ok' t e))
    (hstep : ∀ s t e, R s t → R (step s e) (step' t e)) {s : σ} {t : τ} (es : List ε)
    (h : R s t) : Guarded step ok s es ↔ Guarded step' ok' t es := by
  induction es generalizing s t with
  | nil => exact Iff.rfl
  | cons e es ih => rw [guarded_cons, guarded_cons, hok s t e h, ih (hstep s t e h)]

/-- A partial step that is the step of the machine wherever an invariant holds has its runs. -/
theorem foldlM_eq_run {step? : σ → ε → Option σ} {I : σ → Prop}
    (hdefined : ∀ s e, I s → step? s e = some (step s e)) (hkeeps : ∀ s e, I s → I (step s e))
    {s : σ} (hs : I s) (es : List ε) : es.foldlM step? s = some (run step s es) := by
  induction es generalizing s with
  | nil => rfl
  | cons e es ih =>
    rw [List.foldlM_cons, hdefined s e hs]
    exact ih (hkeeps s e hs)

/-- The machine advances its index, which stays below the bound, unless it has ended. -/
theorem final_of_progress (final : σ → Prop) (index : σ → ℕ) {bound : ℕ}
    (hprogress : ∀ s e, ¬ final (step s e) →
      ¬ final s ∧ index s < index (step s e) ∧ index (step s e) < bound)
    (hbound : 0 < bound) (s : σ) {es : List ε} (hes : bound ≤ es.length) :
    final (run step s es) := by
  -- Each event of a run that has not ended is one more step of the index.
  have hindex : ∀ es : List ε, ¬ final (run step s es) →
      es = [] ∨ index s + es.length ≤ index (run step s es) ∧ index (run step s es) < bound := by
    intro es
    induction es using List.reverseRecOn with
    | nil => exact fun _ => .inl rfl
    | append_singleton es e ih =>
      intro hrunning
      rw [run_append, run_cons, run_nil] at hrunning ⊢
      obtain ⟨hbefore, hadvanced, hbelow⟩ := hprogress (run step s es) e hrunning
      refine .inr ⟨?_, hbelow⟩
      rw [List.length_append, List.length_singleton]
      rcases ih hbefore with rfl | ⟨hreached, -⟩
      · exact hadvanced
      · exact Nat.lt_of_le_of_lt hreached hadvanced
  by_contra hrunning
  rcases hindex es hrunning with rfl | ⟨hreached, hbelow⟩
  · exact absurd hes (Nat.not_le_of_lt hbound)
  · have hle := Nat.le_trans (Nat.le_add_left _ (index s)) hreached
    exact absurd (Nat.le_trans hes hle) (Nat.not_le_of_lt hbelow)

end GuardedRun
