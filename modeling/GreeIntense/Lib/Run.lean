import Mathlib.Logic.Basic
import Mathlib.Data.List.Basic

/-!
# Runs of labelled partial steps

A system is a function `step : σ → α → Option σ`: the state after the event `a`, or `none` where the
event cannot take place (or ends the program).  A run is the events of a list taken one after the
other.

* `run`: the state after a list of events, and its rules for `++`;
* `run_foldl`: a run that is a fold on an abstract side;
* `Stays step P s as`: the run goes through, and `P` holds in every state of it;
* `Safe step P s as`: `P` holds in every state of the run, as far as it goes;
* `Meets step ok s as`: every step of the run that is taken meets the condition `ok`;
* `Meets.stays`: an invariant kept by every step that meets the condition holds along the run;
* `stays_meets`: an invariant kept by every step, and what it gives of states and of steps;
* `meets_congr`: conditions that agree on steps agree on runs;
* `stays_iff_meets` and `safe_iff_meets`: where the condition is exact for every single step it is exact
  for runs.
-/

namespace GreeIntense.Lib.Run

variable {σ α : Type*} (step : σ → α → Option σ)

/-- The state after the events. -/
def run : σ → List α → Option σ
  | s, [] => some s
  | s, a :: as => (step s a).bind fun s' => run s' as

/-- The run goes through and every state of it satisfies `P`. -/
def Stays (P : σ → Prop) : σ → List α → Prop
  | s, [] => P s
  | s, a :: as => P s ∧ ∃ s', step s a = some s' ∧ Stays P s' as

/-- Every state of the run satisfies `P`, as far as the run goes. -/
def Safe (P : σ → Prop) : σ → List α → Prop
  | s, [] => P s
  | s, a :: as => P s ∧ ∀ s', step s a = some s' → Safe P s' as

/-- Every step taken meets the condition. -/
def Meets (ok : σ → α → Prop) : σ → List α → Prop
  | _, [] => True
  | s, a :: as => ok s a ∧ ∀ s', step s a = some s' → Meets ok s' as

section Rules

variable {step} {P I : σ → Prop} {ok : σ → α → Prop} {s s' : σ} {a : α} {as bs : List α}

@[simp] theorem run_nil : run step s [] = some s := rfl

theorem run_cons : run step s (a :: as) = (step s a).bind fun s' => run step s' as := rfl

theorem run_append : run step s (as ++ bs) = (run step s as).bind fun s' => run step s' bs := by
  induction as generalizing s with
  | nil => rfl
  | cons a as ih =>
    simp only [List.cons_append, run_cons]
    cases step s a with
    | none => rfl
    | some s' => exact ih

/-- **The invariant rule**: what every step keeps, every run keeps. -/
theorem run_induction (h0 : P s) (hs : ∀ s a s', P s → step s a = some s' → P s')
    (h : run step s as = some s') : P s' := by
  induction as generalizing s with
  | nil =>
    cases h
    exact h0
  | cons a as ih =>
    rw [run_cons] at h
    obtain ⟨s₁, h1, h2⟩ := Option.bind_eq_some_iff.mp h
    exact ih (hs s a s₁ h0 h1) h2

/-- **Simulation by a fold**: where every step can be taken and is what `f` does on the abstract side, a run is the fold
of its events. -/
theorem run_foldl {β : Type*} {R : σ → β → Prop} {f : β → α → β} {b : β}
    (hs : ∀ s b a, R s b → ∃ s', step s a = some s' ∧ R s' (f b a)) (h0 : R s b) (as : List α) :
    ∃ s', run step s as = some s' ∧ R s' (as.foldl f b) := by
  induction as generalizing s b with
  | nil => exact ⟨s, rfl, h0⟩
  | cons a as ih =>
    obtain ⟨s₁, h1, h⟩ := hs s b a h0
    rw [run_cons, h1]
    exact ih h

theorem Stays.head (h : Stays step P s as) : P s := by
  cases as with
  | nil => exact h
  | cons a as => exact h.1

/-- **A condition on steps makes an invariant**: if from an invariant state every step that meets the
condition is taken and keeps `P`, then a run whose steps meet it stays in `P`. -/
theorem Meets.stays (hI : ∀ s a s', I s → step s a = some s' → I s')
    (h : ∀ s a, I s → P s → ok s a → ∃ s', step s a = some s' ∧ P s')
    (hi : I s) (h0 : P s) (hm : Meets step ok s as) : Stays step P s as := by
  induction as generalizing s with
  | nil => exact h0
  | cons a as ih =>
    obtain ⟨hok, hm⟩ := hm
    obtain ⟨s', hs, hP⟩ := h s a hi h0 hok
    exact ⟨h0, s', hs, ih (hI s a s' hi hs) hP (hm s' hs)⟩

/-- **An exact condition on steps is exact on runs.** -/
theorem stays_iff_meets (hI : ∀ s a s', I s → step s a = some s' → I s')
    (h : ∀ s a, I s → P s → (ok s a ↔ ∃ s', step s a = some s' ∧ P s')) (hi : I s) (h0 : P s) :
    Stays step P s as ↔ Meets step ok s as := by
  refine ⟨fun hst => ?_, Meets.stays hI (fun s a hi hP => (h s a hi hP).mp) hi h0⟩
  induction as generalizing s with
  | nil => trivial
  | cons a as ih =>
    obtain ⟨-, s₁, hs, hst⟩ := hst
    refine ⟨(h s a hi h0).mpr ⟨s₁, hs, hst.head⟩, ?_⟩
    intro s' hs'
    obtain rfl : s₁ = s' := Option.some.inj (hs.symm.trans hs')
    exact ih (hI s a s₁ hi hs) hst.head hst

theorem Meets.mono {ok' : σ → α → Prop} (h : ∀ s a, ok s a → ok' s a) (hm : Meets step ok s as) :
    Meets step ok' s as := by
  induction as generalizing s with
  | nil => trivial
  | cons a as ih => exact ⟨h s a hm.1, fun s' hs => ih (hm.2 s' hs)⟩

theorem meets_true : Meets step (fun _ _ => True) s as := by
  induction as generalizing s with
  | nil => trivial
  | cons a as ih => exact ⟨trivial, fun _ _ => ih⟩

/-- A condition on events alone is one on the list, where every step can be taken. -/
theorem meets_events {ok : α → Prop} (total : ∀ s a, ∃ s', step s a = some s') :
    Meets step (fun _ a => ok a) s as ↔ ∀ a ∈ as, ok a := by
  induction as generalizing s with
  | nil => exact iff_of_true trivial fun a ha => absurd ha List.not_mem_nil
  | cons a as ih =>
    obtain ⟨s', hs⟩ := total s a
    rw [List.forall_mem_cons, ← ih (s := s')]
    exact and_congr_right fun _ => ⟨fun hm => hm s' hs, fun hm _ hs' => Option.some.inj (hs.symm.trans hs') ▸ hm⟩

theorem meets_cons_some (h : step s a = some s') : Meets step ok s (a :: as) ↔ ok s a ∧ Meets step ok s' as :=
  and_congr_right fun _ => ⟨fun hm => hm s' h, fun hm _ hs => Option.some.inj (h.symm.trans hs) ▸ hm⟩

theorem meets_cons_none (h : step s a = none) : Meets step ok s (a :: as) ↔ ok s a :=
  ⟨fun hm => hm.1, fun hok => ⟨hok, fun s' hs => by rw [h] at hs; cases hs⟩⟩

/-- A condition that can be decided on steps can be decided on runs. -/
instance Meets.decidable [∀ s a, Decidable (ok s a)] : ∀ s as, Decidable (Meets step ok s as)
  | _, [] => isTrue trivial
  | s, a :: as =>
    match h : step s a with
    | none => decidable_of_iff (ok s a) (meets_cons_none h).symm
    | some s' =>
      have := Meets.decidable s' as
      decidable_of_iff (ok s a ∧ Meets step ok s' as) (meets_cons_some h).symm

/-- What every step that meets the condition keeps, a run whose steps meet it keeps. -/
theorem Meets.run_induction (h : ∀ s a s', P s → ok s a → step s a = some s' → P s') (h0 : P s)
    (hm : Meets step ok s as) (hr : run step s as = some s') : P s' := by
  induction as generalizing s with
  | nil =>
    cases hr
    exact h0
  | cons a as ih =>
    rw [run_cons] at hr
    obtain ⟨s₁, h1, h2⟩ := Option.bind_eq_some_iff.mp hr
    exact ih (h s a s₁ h0 hm.1 h1) (hm.2 s₁ h1) h2

/-- **A condition whose violation leaves a mark**: where every step that does not meet it leads from `P` to
`I`, and every step keeps `I`, a run with such a step ends in `I`. -/
theorem not_meets_run (hP : ∀ s a s', P s → ok s a → step s a = some s' → P s')
    (hbad : ∀ s a s', P s → ¬ok s a → step s a = some s' → I s')
    (hI : ∀ s a s', I s → step s a = some s' → I s') (h0 : P s) (hm : ¬Meets step ok s as)
    (hr : run step s as = some s') : I s' := by
  induction as generalizing s with
  | nil => exact absurd trivial hm
  | cons a as ih =>
    rw [run_cons] at hr
    obtain ⟨s₁, h1, h2⟩ := Option.bind_eq_some_iff.mp hr
    by_cases hok : ok s a
    · exact ih (hP s a s₁ h0 hok h1) (fun h => hm ((meets_cons_some h1).mpr ⟨hok, h⟩)) h2
    · exact run_induction (hbad s a s₁ h0 hok h1) hI h2

/-! ### Runs under an assumption -/

variable {A Q : σ → α → Prop}

theorem Safe.head (h : Safe step P s as) : P s := by
  cases as with
  | nil => exact h
  | cons a as => exact h.1

theorem Safe.run (h : Safe step P s as) (hr : run step s as = some s') : P s' := by
  induction as generalizing s with
  | nil =>
    cases hr
    exact h
  | cons a as ih =>
    rw [run_cons] at hr
    obtain ⟨s₁, h1, h2⟩ := Option.bind_eq_some_iff.mp hr
    exact ih (h.2 s₁ h1) h2

/-- What every step gives that starts in an invariant state, under the assumption and the condition, every
step of a run gives. -/
theorem Meets.imp (hI : ∀ s a s', I s → A s a → ok s a → step s a = some s' → I s')
    (h : ∀ s a, I s → A s a → ok s a → Q s a) (hA : Meets step A s as) (hi : I s) (hm : Meets step ok s as) :
    Meets step Q s as := by
  induction as generalizing s with
  | nil => trivial
  | cons a as ih =>
    exact ⟨h s a hi hA.1 hm.1, fun s' hs => ih (hA.2 s' hs) (hI s a s' hi hA.1 hm.1 hs) (hm.2 s' hs)⟩

/-- **The invariant rule for states and steps**: where from every invariant state every step can be taken and leads to
one, a run stays in what the invariant gives of states, and its steps meet what it gives of steps. -/
theorem stays_meets (h : ∀ s a, I s → Q s a ∧ ∃ s', step s a = some s' ∧ I s') (hP : ∀ s, I s → P s) (hi : I s) :
    Stays step P s as ∧ Meets step Q s as := by
  induction as generalizing s with
  | nil => exact ⟨hP s hi, trivial⟩
  | cons a as ih =>
    obtain ⟨hQ, s', hs, hi'⟩ := h s a hi
    exact ⟨⟨hP s hi, s', hs, (ih hi').1⟩, (meets_cons_some hs).mpr ⟨hQ, (ih hi').2⟩⟩

/-- **Conditions that agree on steps agree on runs**, where an invariant is kept by the steps that meet one of
them. -/
theorem meets_congr {ok' : σ → α → Prop} (hI : ∀ s a s', I s → ok s a → step s a = some s' → I s')
    (h : ∀ s a, I s → (ok s a ↔ ok' s a)) (hi : I s) : Meets step ok s as ↔ Meets step ok' s as := by
  induction as generalizing s with
  | nil => exact Iff.rfl
  | cons a as ih =>
    constructor
    · rintro ⟨hok, hm⟩
      exact ⟨(h s a hi).mp hok, fun s' hs => (ih (hI s a s' hi hok hs)).mp (hm s' hs)⟩
    · rintro ⟨hok, hm⟩
      have hok := (h s a hi).mpr hok
      exact ⟨hok, fun s' hs => (ih (hI s a s' hi hok hs)).mpr (hm s' hs)⟩

/-- **Exact on steps, exact on runs, under an assumption on the steps**: here the invariant need be kept
only by the steps that meet the condition. -/
theorem safe_iff_meets (hI : ∀ s a s', I s → A s a → ok s a → step s a = some s' → I s')
    (h : ∀ s a, I s → A s a → P s → (ok s a ↔ ∀ s', step s a = some s' → P s'))
    (hA : Meets step A s as) (hi : I s) (h0 : P s) : Safe step P s as ↔ Meets step ok s as := by
  induction as generalizing s with
  | nil => exact ⟨fun _ => trivial, fun _ => h0⟩
  | cons a as ih =>
    have next (s' : σ) (hok : ok s a) (hs : step s a = some s') : Safe step P s' as ↔ Meets step ok s' as :=
      ih (hA.2 s' hs) (hI s a s' hi hA.1 hok hs) ((h s a hi hA.1 h0).mp hok s' hs)
    constructor
    · rintro ⟨-, hsafe⟩
      have hok : ok s a := (h s a hi hA.1 h0).mpr fun s' hs => (hsafe s' hs).head
      exact ⟨hok, fun s' hs => (next s' hok hs).mp (hsafe s' hs)⟩
    · rintro ⟨hok, hm⟩
      exact ⟨h0, fun s' hs => (next s' hok hs).mpr (hm s' hs)⟩

end Rules

end GreeIntense.Lib.Run
