import GreeIntense.Lib.Run

/-!
# Refinement of runs

Two systems go together along a relation of their states: from related states an event is taken by both, to related
states, or by neither (`Bisim`).  Then so do their runs (`Bisim.run`); what can be observed of related states is the
same at their ends (`map_eq_of_rel`).

The events of the second system are read as events of the first one, and only those that are admitted matter.
-/

namespace GreeIntense.Lib.Refine

open Lib.Run

variable {σ τ α β γ : Type*} {step : σ → α → Option σ} {step' : τ → β → Option τ} {label : β → α} {ok : β → Prop}
  {R : σ → τ → Prop} {s : σ} {t : τ} {bs : List β}

/-- From related states both take an admitted event, to related states, or neither does. -/
def Bisim (step : σ → α → Option σ) (step' : τ → β → Option τ) (label : β → α) (ok : β → Prop) (R : σ → τ → Prop) :
    Prop :=
  ∀ s t b, R s t → ok b → Option.Rel R (step s (label b)) (step' t b)

/-- **Runs go together as steps do.** -/
theorem Bisim.run (h : Bisim step step' label ok R) (hR : R s t) (hok : ∀ b ∈ bs, ok b) :
    Option.Rel R (run step s (bs.map label)) (run step' t bs) := by
  induction bs generalizing s t with
  | nil => exact Option.Rel.some hR
  | cons b bs ih =>
    obtain ⟨hb, hbs⟩ := List.forall_mem_cons.mp hok
    have hstep := h s t b hR hb
    rw [List.map_cons, run_cons, run_cons]
    generalize step s (label b) = x, step' t b = y at hstep
    cases hstep with
    | none => exact Option.Rel.none
    | some hR' => exact ih hR' hbs

section Results

variable {x : Option σ} {y : Option τ}

theorem of_rel_some (h : Option.Rel R x (some t)) : ∃ s, x = some s ∧ R s t := by
  cases h with
  | some hR => exact ⟨_, rfl, hR⟩

theorem of_rel_none (h : Option.Rel R x none) : x = none := by
  cases h
  rfl

theorem map_eq_of_rel {f : σ → γ} {g : τ → γ} (h : Option.Rel R x y) (hfg : ∀ a b, R a b → f a = g b) :
    x.map f = y.map g := by
  cases h with
  | none => rfl
  | some hR => exact congrArg some (hfg _ _ hR)

end Results

end GreeIntense.Lib.Refine
