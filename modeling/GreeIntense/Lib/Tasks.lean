import Mathlib.Data.Stream.Init
import Mathlib.Logic.Function.Basic
import GreeIntense.Lib.Run

/-!
# Tasks that share a store

Each task repeats a pass.  A pass is a tree (`Prog`) of single accesses to the store (a test, an assignment) and of
calls whose answer is arbitrary; between any two of them the other tasks and the environment may act.  An
assignment may be marked as standing in the middle of a change to an object: the store before it is then judged
with that object being changed (`Prog.mid`).

What a task promises is a `Contract`: an invariant (which may be weaker for the object in change), what holds where
a call is entered, the changes it allows the others (`rely`) and those it makes itself (`guar`).

* `Contract.Ok`: the rest of a pass, started in a store, keeps the contract whatever the others do;
* `Ok.of_rely`: what the others do keeps `Ok`; `Ok.next`: so does a step of the task, within its guarantee;
* `step_ok`, `run_ok`: tasks whose passes keep their contracts keep them in every interleaving, where each
  guarantee is within the reliance of the others;
* `ok_test`, `ok_assign`, `ok_call`, `ok_done`: the rules for a pass, from an assertion the others keep (`Stable`);
* `Prog.exec`: what a pass does alone, the answers of its calls being given; `Keeps.exec`: a pass without a fault is
  carried out, and what all its assignments keep, it keeps.
-/

namespace GreeIntense.Lib.Tasks

/-- The rest of a pass over a store `σ`: `ι` are the objects, `κ` the calls, `ω` their answers. -/
inductive Prog (σ ι κ ω : Type*)
  | done
  | fault
  | read (k : σ → Prog σ ι κ ω)
  | write (mid : Option ι) (f : σ → σ) (k : Prog σ ι κ ω)
  | call (c : κ) (k : ω → Prog σ ι κ ω)

variable {τ ε σ ι κ ω : Type*}

/-- The object whose change the task is in the middle of. -/
def Prog.mid : Prog σ ι κ ω → Option ι
  | .write mid _ _ => mid
  | _ => none

/-- A step of a task that repeats `pass`; `w` is the answer, should it be a call. -/
def Prog.next (pass : Prog σ ι κ ω) (w : ω) (s : σ) : Prog σ ι κ ω → Option (Prog σ ι κ ω × σ)
  | .done => some (pass, s)
  | .fault => none
  | .read k => some (k s, s)
  | .write _ f k => some (k, f s)
  | .call _ k => some (k w, s)

/-- The tasks and their store. -/
structure System (τ σ ι κ ω : Type*) where
  prog : τ → Prog σ ι κ ω
  store : σ

/-- Who takes the next step. -/
inductive Event (τ ε ω : Type*)
  | go (t : τ) (w : ω)
  | env (e : ε)

/-- A step of the system; every task `t` repeats `pass t`. -/
def step [DecidableEq τ] (pass : τ → Prog σ ι κ ω) (env : ε → σ → σ) (x : System τ σ ι κ ω) :
    Event τ ε ω → Option (System τ σ ι κ ω)
  | .go t w => (Prog.next (pass t) w x.store (x.prog t)).map fun r => ⟨Function.update x.prog t r.1, r.2⟩
  | .env e => some { x with store := env e x.store }

/-- Every task before its first pass. -/
def start (s : σ) : System τ σ ι κ ω := ⟨fun _ => .done, s⟩

/-! ### Contracts -/

structure Contract (σ ι κ : Type*) where
  inv : Option ι → σ → Prop
  entry : κ → σ → Prop
  rely : σ → σ → Prop
  guar : σ → σ → Prop
  rely_refl : ∀ s, rely s s
  rely_trans : ∀ {s s' s''}, rely s s' → rely s' s'' → rely s s''
  guar_refl : ∀ s, guar s s

namespace Contract

variable (T : Contract σ ι κ)

/-- The rest of the pass keeps the contract from the store `s` on, with the others acting before every step. -/
def Ok : Prog σ ι κ ω → σ → Prop
  | .done, s => ∀ s', T.rely s s' → T.inv none s'
  | .fault, _ => False
  | .read k, s => ∀ s', T.rely s s' → T.inv none s' ∧ Ok (k s') s'
  | .write mid f k, s => ∀ s', T.rely s s' → T.inv mid s' ∧ T.guar s' (f s') ∧ Ok k (f s')
  | .call c k, s => ∀ s', T.rely s s' → T.inv none s' ∧ T.entry c s' ∧ ∀ w, Ok (k w) s'

/-- The assertion is kept by what the others may do. -/
def Stable (P : σ → Prop) : Prop := ∀ s s', T.rely s s' → P s → P s'

section Steps

variable {T} {p p' : Prog σ ι κ ω} {s s' : σ}

theorem Ok.of_rely (h : T.Ok p s) (hr : T.rely s s') : T.Ok p s' := by
  cases p with
  | fault => exact h
  | done | read | write | call => exact fun s'' hr' => h s'' (T.rely_trans hr hr')

theorem Ok.inv (h : T.Ok p s) : T.inv p.mid s := by
  cases p with
  | fault => exact h.elim
  | done => exact h s (T.rely_refl s)
  | read | write | call => exact (h s (T.rely_refl s)).1

theorem Ok.not_fault (h : T.Ok p s) : p ≠ .fault := by
  rintro rfl
  exact h

theorem Ok.entry {c : κ} {k : ω → Prog σ ι κ ω} (h : T.Ok (.call c k) s) : T.entry c s :=
  (h s (T.rely_refl s)).2.1

/-- A step of the task keeps `Ok` and stays within its guarantee. -/
theorem Ok.next {pass : Prog σ ι κ ω} {w : ω} (hpass : ∀ s, T.inv none s → T.Ok pass s) (h : T.Ok p s)
    (hn : Prog.next pass w s p = some (p', s')) : T.Ok p' s' ∧ T.guar s s' := by
  cases p with
  | fault => exact h.elim
  | done =>
    cases hn
    exact ⟨hpass s h.inv, T.guar_refl s⟩
  | read k =>
    cases hn
    exact ⟨(h s (T.rely_refl s)).2, T.guar_refl s⟩
  | write mid f k =>
    cases hn
    exact ⟨(h s (T.rely_refl s)).2.2, (h s (T.rely_refl s)).2.1⟩
  | call c k =>
    cases hn
    exact ⟨(h s (T.rely_refl s)).2.2 w, T.guar_refl s⟩

end Steps

/-! ### Interleavings -/

section Runs

variable {T : τ → Contract σ ι κ} {s : σ}

/-- Before the first passes the contracts hold in a store of every invariant that the others keep. -/
theorem start_ok (hinv : ∀ t, (T t).inv none s) (hst : ∀ t, (T t).Stable ((T t).inv none)) (t : τ) :
    (T t).Ok ((start s : System τ σ ι κ ω).prog t) s :=
  fun s' hr => hst t s s' hr (hinv t)

variable [DecidableEq τ] {pass : τ → Prog σ ι κ ω} {env : ε → σ → σ}

/-- **Step lemma**: a step of any task, or of the environment, keeps every task's contract. -/
theorem step_ok (hpass : ∀ t s, (T t).inv none s → (T t).Ok (pass t) s)
    (hcompat : ∀ t t', t ≠ t' → ∀ s s', (T t).guar s s' → (T t').rely s s')
    (henv : ∀ t e s, (T t).rely s (env e s)) {x x' : System τ σ ι κ ω} {a : Event τ ε ω}
    (h : ∀ t, (T t).Ok (x.prog t) x.store) (hs : step pass env x a = some x') :
    ∀ t, (T t).Ok (x'.prog t) x'.store := by
  intro t'
  cases a with
  | env e =>
    cases hs
    exact (h t').of_rely (henv t' e x.store)
  | go t w =>
    obtain ⟨⟨p, s⟩, hn, rfl⟩ := Option.map_eq_some_iff.mp hs
    obtain ⟨hok, hg⟩ := (h t).next (hpass t) hn
    rcases eq_or_ne t' t with rfl | ht
    · simpa using hok
    · simpa [Function.update_of_ne ht] using (h t').of_rely (hcompat t t' ht.symm _ _ hg)

/-- **Run lemma**: in every interleaving every task keeps its contract. -/
theorem run_ok (hpass : ∀ t s, (T t).inv none s → (T t).Ok (pass t) s)
    (hcompat : ∀ t t', t ≠ t' → ∀ s s', (T t).guar s s' → (T t').rely s s')
    (henv : ∀ t e s, (T t).rely s (env e s)) {x x' : System τ σ ι κ ω} {as : List (Event τ ε ω)}
    (h : ∀ t, (T t).Ok (x.prog t) x.store) (hr : Run.run (step pass env) x as = some x') :
    ∀ t, (T t).Ok (x'.prog t) x'.store :=
  Run.run_induction (P := fun x => ∀ t, (T t).Ok (x.prog t) x.store) h
    (fun _ _ _ hx hs => step_ok hpass hcompat henv hx hs) hr

end Runs

/-! ### Rules for a pass -/

section Rules

variable {T} {P Q : σ → Prop} {s : σ} {k : Prog σ ι κ ω}

theorem ok_done (hst : T.Stable P) (hinv : ∀ s, P s → T.inv none s) (h : P s) :
    T.Ok (.done : Prog σ ι κ ω) s :=
  fun s' hr => hinv s' (hst s s' hr h)

/-- A read: the pass goes on as the store at the read says. -/
theorem ok_read {k : σ → Prog σ ι κ ω} (hst : T.Stable P) (hinv : ∀ s, P s → T.inv none s)
    (hk : ∀ s, P s → T.Ok (k s) s) (h : P s) : T.Ok (.read k) s :=
  fun s' hr => have h' := hst s s' hr h; ⟨hinv s' h', hk s' h'⟩

theorem ok_write {mid : Option ι} {f : σ → σ} (hst : T.Stable P) (hinv : ∀ s, P s → T.inv mid s)
    (hg : ∀ s, P s → T.guar s (f s)) (hk : ∀ s, P s → T.Ok k (f s)) (h : P s) : T.Ok (.write mid f k) s :=
  fun s' hr => have h' := hst s s' hr h; ⟨hinv s' h', hg s' h', hk s' h'⟩

theorem ok_call {c : κ} {k : ω → Prog σ ι κ ω} (hst : T.Stable P) (hinv : ∀ s, P s → T.inv none s)
    (he : ∀ s, P s → T.entry c s) (hk : ∀ w s, P s → T.Ok (k w) s) (h : P s) : T.Ok (.call c k) s :=
  fun s' hr => have h' := hst s s' hr h; ⟨hinv s' h', he s' h', fun w => hk w s' h'⟩

end Rules

end Contract

/-! ### A pass alone -/

/-- The store after the pass, its calls being answered by the stream. -/
def Prog.exec : Prog σ ι κ ω → Stream' ω → σ → Option σ
  | .done, _, s => some s
  | .fault, _, _ => none
  | .read k, ws, s => (k s).exec ws s
  | .write _ f k, ws, s => k.exec ws (f s)
  | .call _ k, ws, s => (k ws.head).exec ws.tail s

/-- There is no fault in the pass, and every assignment keeps the view. -/
def Prog.Keeps {β : Type*} (view : σ → β) : Prog σ ι κ ω → Prop
  | .done => True
  | .fault => False
  | .read k => ∀ s, (k s).Keeps view
  | .write _ f k => (∀ s, view (f s) = view s) ∧ k.Keeps view
  | .call _ k => ∀ w, (k w).Keeps view

theorem Prog.Keeps.exec {β : Type*} {view : σ → β} {p : Prog σ ι κ ω} (h : p.Keeps view) (ws : Stream' ω) (s : σ) :
    ∃ s', p.exec ws s = some s' ∧ view s' = view s := by
  induction p generalizing ws s with
  | done => exact ⟨s, rfl, rfl⟩
  | fault => exact h.elim
  | read k ih => exact ih s (h s) ws s
  | write mid f k ih =>
    obtain ⟨s', hs, hv⟩ := ih h.2 ws (f s)
    exact ⟨s', hs, hv.trans (h.1 s)⟩
  | call c k ih => exact ih ws.head (h ws.head) ws.tail s

end GreeIntense.Lib.Tasks
