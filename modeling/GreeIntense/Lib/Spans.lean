import Mathlib.Data.List.Basic
import Mathlib.Data.List.Pairwise
import Mathlib.Tactic.Common

/-!
# Spans over gaps

A scan goes over items with ascending keys, of which some are wanted, and covers the wanted ones with spans of
keys.  A span may run over keys that no item has, but not over an item that is not wanted.  It ends before an
item that is `interval` or more further than the last one, before one that is not wanted, when it has reached
`max` keys, and at the last item.

`spanStep` is one item, `spanRun` the whole scan.  The spans put out and the span still open lie one behind the
other and cover the wanted items passed and no other item (`Covers`); every item extends the open span or begins
the next one (`spanStep_joins`), and the last one closes it (`spanRun_covers`).
-/

namespace GreeIntense.Lib.Spans

/-- An item of the scan: its key, and whether it is wanted. -/
abbrev Item := ℕ × Bool

/-- `count` keys from `start` on. -/
structure Span where
  start : ℕ
  count : ℕ

/-- The key is one of the span. -/
def Span.covers (q : Span) (key : ℕ) : Bool := q.start ≤ key ∧ key < q.start + q.count

/-- The one span ends before the other begins. -/
def Span.before (q t : Span) : Prop := q.start + q.count ≤ t.start

/-- The scan between two items: the last key, and the open span, if `count` is not 0. -/
structure SpanState where
  last : ℕ
  start : ℕ
  count : ℕ

/-- The scan before the first item. -/
def SpanState.idle : SpanState := ⟨0, 0, 0⟩

/-- The open span. -/
def SpanState.pending (s : SpanState) : List Span := if s.count = 0 then [] else [⟨s.start, s.count⟩]

/-- An item begins a span or extends the open one; one that is far off ends the open one first. -/
def spanEnter (interval key : ℕ) (wanted : Bool) (s : SpanState) : SpanState × List Span :=
  if s.last + interval < key + 1 then
    (if wanted then { s with start := key, count := 1 } else { s with count := 0 }, s.pending)
  else if wanted then
    let start := if s.count = 0 then key else s.start
    ({ s with start := start, count := key - start + 1 }, [])
  else (s, [])

/-- The open span is put out when the item is not wanted or the last one, or when the span is full. -/
def spanClose (max : ℕ) (isLast : Bool) (key : ℕ) (wanted : Bool) (s : SpanState) : SpanState × List Span :=
  if wanted = false ∨ isLast ∨ max ≤ s.count then (⟨key, s.start, 0⟩, s.pending) else (⟨key, s.start, s.count⟩, [])

/-- One item. -/
def spanStep (interval max : ℕ) (isLast : Bool) (e : Item) (s : SpanState) : SpanState × List Span :=
  let r := spanEnter interval e.1 e.2 s
  let t := spanClose max isLast e.1 e.2 r.1
  (t.1, r.2 ++ t.2)

/-- The scan over the items `es`: the spans put out and what is left. -/
def spanRun (interval max : ℕ) : List Item → SpanState → List Span × SpanState
  | [], s => ([], s)
  | e :: es, s =>
    let r := spanStep interval max es.isEmpty e s
    let t := spanRun interval max es r.1
    (r.2 ++ t.1, t.2)

/-- The spans a scan of the items puts out. -/
def spans (interval max : ℕ) (es : List Item) : List Span := (spanRun interval max es .idle).1

/-- The open span ends with the last key, and it is shorter than `max`. -/
structure SpanState.Ok (max : ℕ) (s : SpanState) : Prop where
  last : 0 < s.count → s.last + 1 = s.start + s.count
  short : s.count < max

theorem idle_ok {max : ℕ} (hmax : 0 < max) : SpanState.idle.Ok max := ⟨nofun, hmax⟩

theorem pending_zero {s : SpanState} (h : s.count = 0) : s.pending = [] := if_pos h

theorem pending_pos {s : SpanState} (h : 0 < s.count) : s.pending = [⟨s.start, s.count⟩] :=
  if_neg (Nat.ne_of_gt h)

/-! ### One item -/

section Step

variable {interval max : ℕ} {s : SpanState} {key : ℕ} (wanted isLast : Bool)

/-- The bounds of a span: at least one key, and `interval - 2` more than `max` at most. -/
def Span.Bounded (interval max : ℕ) (q : Span) : Prop := 1 ≤ q.count ∧ q.count + 2 ≤ max + interval

theorem pending_bounded (hint : 1 < interval) (hshort : s.count < max) :
    ∀ q ∈ s.pending, q.Bounded interval max := by
  intro q hq
  rcases Nat.eq_zero_or_pos s.count with h0 | hpos
  · rw [pending_zero h0] at hq
    cases hq
  · rw [pending_pos hpos, List.mem_singleton] at hq
    subst hq
    constructor
    · exact hpos
    · change s.count + 2 ≤ max + interval
      omega

/-- **What an item does to the open span**: a wanted one begins the next span or extends the open one, another
one leaves it as it is. -/
theorem spanEnter_joins (hmax : 1 < max) (hint : 1 < interval) (h : s.Ok max) (hkey : 0 < s.count → s.last < key) :
    let r := spanEnter interval key wanted s
    (∀ q ∈ r.2 ++ r.1.pending, q.Bounded interval max) ∧ (wanted = false → r.1.count < max) ∧
      (wanted = true → r.1.start + r.1.count = key + 1) ∧
      (r.2 ++ r.1.pending = s.pending ++ (if wanted then [⟨key, 1⟩] else []) ∨
        wanted = true ∧ 0 < s.count ∧ r.2 ++ r.1.pending = [⟨s.start, key - s.start + 1⟩]) := by
  obtain ⟨hlast, hshort⟩ := h
  have hpend := pending_bounded hint hshort
  by_cases hfar : s.last + interval < key + 1
  · -- too far behind: the open span is put out
    cases wanted with
    | false =>
      simp only [spanEnter, if_pos hfar, Bool.false_eq_true, if_false]
      refine ⟨?_, fun _ => by omega, nofun, Or.inl rfl⟩
      simpa [SpanState.pending] using hpend
    | true =>
      have hone : (⟨s.last, key, 1⟩ : SpanState).pending = [⟨key, 1⟩] := rfl
      simp only [spanEnter, if_pos hfar, if_true, hone]
      refine ⟨fun q hq => ?_, nofun, fun _ => trivial, Or.inl trivial⟩
      rcases List.mem_append.mp hq with hq | hq
      · exact hpend q hq
      · rw [List.mem_singleton.mp hq]
        exact ⟨Nat.le_refl 1, by dsimp only; omega⟩
  · -- near enough: the open span goes on
    cases wanted with
    | false =>
      simp only [spanEnter, if_neg hfar, Bool.false_eq_true, if_false, List.nil_append, List.append_nil]
      exact ⟨hpend, fun _ => hshort, nofun, Or.inl trivial⟩
    | true =>
      simp only [spanEnter, if_neg hfar, if_true, List.nil_append]
      rcases Nat.eq_zero_or_pos s.count with h0 | hpos
      · have hone : (⟨s.last, key, 1⟩ : SpanState).pending = [⟨key, 1⟩] := rfl
        simp only [if_pos h0, pending_zero h0, Nat.sub_self, Nat.zero_add, List.nil_append, hone]
        refine ⟨fun q hq => ?_, nofun, fun _ => trivial, Or.inl trivial⟩
        rw [List.mem_singleton.mp hq]
        exact ⟨Nat.le_refl 1, by dsimp only; omega⟩
      · -- the keys between are spanned, too
        have hne : s.count ≠ 0 := Nat.ne_of_gt hpos
        have hlast := hlast hpos
        have hkey := hkey hpos
        have hopen : (⟨s.last, s.start, key - s.start + 1⟩ : SpanState).pending = [⟨s.start, key - s.start + 1⟩] :=
          pending_pos (Nat.succ_pos _)
        simp only [if_neg hne, hopen]
        refine ⟨fun q hq => ?_, nofun, fun _ => by omega, Or.inr ⟨trivial, hpos, trivial⟩⟩
        rw [List.mem_singleton.mp hq]
        exact ⟨Nat.succ_pos _, by dsimp only; omega⟩

/-- An item that closes the open span puts it out. -/
theorem spanClose_joins (max : ℕ) (isLast : Bool) (key : ℕ) (wanted : Bool) (s : SpanState) :
    let t := spanClose max isLast key wanted s
    t.2 ++ t.1.pending = s.pending ∧ t.1.last = key ∧ (wanted = false ∨ isLast = true → t.1.count = 0) ∧
      (0 < t.1.count → t.1.start = s.start ∧ t.1.count = s.count ∧ t.1.count < max) := by
  by_cases hclose : wanted = false ∨ isLast = true ∨ max ≤ s.count
  · simp only [spanClose, if_pos hclose]
    exact ⟨List.append_nil _, trivial, fun _ => trivial, nofun⟩
  · simp only [spanClose, if_neg hclose]
    refine ⟨rfl, trivial, fun h => absurd (h.imp_right Or.inl) hclose, fun _ => ⟨trivial, trivial, ?_⟩⟩
    by_contra hlt
    exact hclose (Or.inr (Or.inr (by omega)))

/-- **One item**: the spans put out and the one left open are those before, the last one extended, or with the
item as the next one, if it is wanted. -/
theorem spanStep_joins (hmax : 1 < max) (hint : 1 < interval) (h : s.Ok max) (hkey : 0 < s.count → s.last < key) :
    let r := spanStep interval max isLast (key, wanted) s
    (r.1.Ok max ∧ r.1.last = key ∧ (isLast = true → r.1.count = 0)) ∧ (∀ q ∈ r.2, q.Bounded interval max) ∧
      (r.2 ++ r.1.pending = s.pending ++ (if wanted then [⟨key, 1⟩] else []) ∨
        wanted = true ∧ 0 < s.count ∧ r.2 ++ r.1.pending = [⟨s.start, key - s.start + 1⟩]) := by
  obtain ⟨hbound, hidle, hend, hjoin⟩ := spanEnter_joins wanted hmax hint h hkey
  obtain ⟨hput, hlast, hzero, hopen⟩ :=
    spanClose_joins max isLast key wanted (spanEnter interval key wanted s).1
  refine ⟨⟨⟨fun hpos => ?_, ?_⟩, hlast, fun h => hzero (Or.inr h)⟩, fun q hq => ?_, ?_⟩
  · -- a span that stays open ends with the item
    obtain ⟨hstart, hcount, -⟩ := hopen hpos
    have hw : wanted = true := by
      by_contra hw
      exact Nat.ne_of_gt hpos (hzero (Or.inl (Bool.eq_false_iff.mpr hw)))
    change (spanClose max isLast key wanted _).1.last + 1 = _
    rw [hlast, ← hend hw]
    exact congrArg₂ (· + ·) hstart.symm hcount.symm
  · rcases Nat.eq_zero_or_pos (spanStep interval max isLast (key, wanted) s).1.count with h0 | hpos
    · omega
    · exact (hopen hpos).2.2
  · rcases List.mem_append.mp hq with hq | hq
    · exact hbound q (List.mem_append_left _ hq)
    · refine hbound q (List.mem_append_right _ ?_)
      rw [← hput]
      exact List.mem_append_left _ hq
  · have hall : (spanStep interval max isLast (key, wanted) s).2 ++
        (spanStep interval max isLast (key, wanted) s).1.pending =
          (spanEnter interval key wanted s).2 ++ (spanEnter interval key wanted s).1.pending := by
      rw [← hput, ← List.append_assoc]
      rfl
    rw [hall]
    exact hjoin

end Step

/-! ### What the spans cover -/

/-- **The spans cover the items passed**: they lie one behind the other below `top`, every wanted item is in one,
and no other item is. -/
structure Covers (seen : List Item) (top : ℕ) (qs : List Span) : Prop where
  keys : ∀ e ∈ seen, e.1 < top
  apart : qs.Pairwise Span.before
  below : ∀ q ∈ qs, q.start + q.count ≤ top
  wanted : ∀ key, (key, true) ∈ seen → ∃ q ∈ qs, q.covers key = true
  others : ∀ key, (key, false) ∈ seen → ∀ q ∈ qs, q.covers key = false

theorem Span.covers_iff {q : Span} {key : ℕ} : q.covers key = true ↔ q.start ≤ key ∧ key < q.start + q.count :=
  decide_eq_true_iff

section Covering

variable {seen : List Item} {top key : ℕ} {qs : List Span}

theorem covers_nil : Covers [] 0 [] :=
  ⟨nofun, List.Pairwise.nil, nofun, nofun, nofun⟩

/-- The next item: the new spans cover what the old ones cover, and of the keys below `top` no other ones. -/
theorem Covers.add {qs' : List Span} {wanted : Bool} (h : Covers seen top qs) (hkey : top ≤ key)
    (apart : qs'.Pairwise Span.before) (below : ∀ q ∈ qs', q.start + q.count ≤ key + 1)
    (kept : ∀ k, (∃ q ∈ qs, q.covers k = true) → ∃ q ∈ qs', q.covers k = true)
    (only : ∀ k < top, (∃ q ∈ qs', q.covers k = true) → ∃ q ∈ qs, q.covers k = true)
    (new : (∃ q ∈ qs', q.covers key = true) ↔ wanted = true) :
    Covers (seen ++ [(key, wanted)]) (key + 1) qs' := by
  refine ⟨fun e he => ?_, apart, below, fun k hk => ?_, fun k hk q hq => ?_⟩
  · rcases List.mem_append.mp he with he | he
    · have := h.keys e he
      omega
    · rw [List.mem_singleton.mp he]
      exact Nat.lt_succ_self key
  · rcases List.mem_append.mp hk with hk | hk
    · exact kept k (h.wanted k hk)
    · cases List.mem_singleton.mp hk
      exact new.mpr rfl
  · rw [← Bool.not_eq_true]
    intro hcov
    rcases List.mem_append.mp hk with hk | hk
    · obtain ⟨t, ht, hcov⟩ := only k (h.keys _ hk) ⟨q, hq, hcov⟩
      rw [h.others k hk t ht] at hcov
      cases hcov
    · cases List.mem_singleton.mp hk
      cases new.mp ⟨q, hq, hcov⟩

theorem Covers.not_covered (h : Covers seen top qs) (hkey : top ≤ key) : ¬∃ q ∈ qs, q.covers key = true := by
  rintro ⟨q, hq, hcov⟩
  have := h.below q hq
  have := (Span.covers_iff.mp hcov).2
  omega

theorem Covers.skip (h : Covers seen top qs) (hkey : top ≤ key) : Covers (seen ++ [(key, false)]) (key + 1) qs := by
  refine h.add hkey h.apart (fun q hq => ?_) (fun _ hk => hk) (fun _ _ hk => hk) ⟨fun hk => ?_, nofun⟩
  · have := h.below q hq
    omega
  · exact absurd hk (h.not_covered hkey)

theorem exists_mem_concat {q : Span} {k : ℕ} :
    (∃ t ∈ qs ++ [q], t.covers k = true) ↔ (∃ t ∈ qs, t.covers k = true) ∨ q.covers k = true := by
  simp only [List.mem_append, List.mem_singleton, or_and_right, exists_or, exists_eq_left]

theorem Covers.begin (h : Covers seen top qs) (hkey : top ≤ key) :
    Covers (seen ++ [(key, true)]) (key + 1) (qs ++ [⟨key, 1⟩]) := by
  have hown (k : ℕ) : (⟨key, 1⟩ : Span).covers k = true ↔ k = key := by
    rw [Span.covers_iff]
    dsimp only
    omega
  refine h.add hkey ?_ (fun q hq => ?_) (fun k hk => ?_) (fun k hk hcov => ?_) ⟨fun _ => rfl, fun _ => ?_⟩
  · refine List.pairwise_append.mpr ⟨h.apart, List.pairwise_singleton _ _, fun q hq t ht => ?_⟩
    rw [List.mem_singleton.mp ht]
    exact Nat.le_trans (h.below q hq) hkey
  · rcases List.mem_append.mp hq with hq | hq
    · have := h.below q hq
      omega
    · obtain rfl := List.mem_singleton.mp hq
      exact Nat.le_refl (key + 1)
  · exact exists_mem_concat.mpr (Or.inl hk)
  · rcases exists_mem_concat.mp hcov with hcov | hcov
    · exact hcov
    · have := (hown k).mp hcov
      omega
  · exact exists_mem_concat.mpr (Or.inr ((hown key).mpr rfl))

theorem Covers.extend {start count : ℕ} (h : Covers seen top (qs ++ [⟨start, count⟩])) (htop : start + count = top)
    (hkey : top ≤ key) : Covers (seen ++ [(key, true)]) (key + 1) (qs ++ [⟨start, key - start + 1⟩]) := by
  have hold (k : ℕ) : (⟨start, count⟩ : Span).covers k = true ↔ start ≤ k ∧ k < top := by
    rw [Span.covers_iff, ← htop]
  have hnew (k : ℕ) : (⟨start, key - start + 1⟩ : Span).covers k = true ↔ start ≤ k ∧ k ≤ key := by
    rw [Span.covers_iff]
    dsimp only
    omega
  obtain ⟨hapart, -, hbefore⟩ := List.pairwise_append.mp h.apart
  refine h.add hkey ?_ (fun q hq => ?_) (fun k hk => ?_) (fun k hk hcov => ?_) ⟨fun _ => rfl, fun _ => ?_⟩
  · refine List.pairwise_append.mpr ⟨hapart, List.pairwise_singleton _ _, fun q hq t ht => ?_⟩
    rw [List.mem_singleton.mp ht]
    exact hbefore q hq ⟨start, count⟩ (List.mem_singleton_self _)
  · rcases List.mem_append.mp hq with hq | hq
    · have := h.below q (List.mem_append_left _ hq)
      omega
    · rw [List.mem_singleton.mp hq]
      dsimp only
      omega
  · refine exists_mem_concat.mpr ((exists_mem_concat.mp hk).imp_right fun hcov => (hnew k).mpr ?_)
    have := (hold k).mp hcov
    omega
  · refine exists_mem_concat.mpr ((exists_mem_concat.mp hcov).imp_right fun hcov => (hold k).mpr ?_)
    have := (hnew k).mp hcov
    omega
  · exact exists_mem_concat.mpr (Or.inr ((hnew key).mpr (by omega)))

/-- **A key is in one span at most.** -/
theorem apart_countP_le (h : qs.Pairwise Span.before) (key : ℕ) : qs.countP (·.covers key) ≤ 1 := by
  induction qs with
  | nil => exact Nat.zero_le 1
  | cons q qs ih =>
    obtain ⟨hq, hqs⟩ := List.pairwise_cons.mp h
    rw [List.countP_cons]
    by_cases hcov : q.covers key = true
    · have hnone : qs.countP (·.covers key) = 0 := by
        rw [List.countP_eq_zero]
        intro t ht hcov'
        have hbefore : q.start + q.count ≤ t.start := hq t ht
        have := (Span.covers_iff.mp hcov).2
        have := (Span.covers_iff.mp hcov').1
        omega
      exact Nat.le_of_eq (by rw [if_pos hcov, hnone])
    · rw [if_neg hcov]
      exact ih hqs

/-- **A wanted item is in exactly one span.** -/
theorem Covers.countP (h : Covers seen top qs) (hkey : (key, true) ∈ seen) : qs.countP (·.covers key) = 1 := by
  have hle := apart_countP_le h.apart key
  have hpos : 0 < qs.countP (·.covers key) := List.countP_pos_iff.mpr (h.wanted key hkey)
  omega

end Covering

/-! ### The whole scan -/

section Run

variable {interval max : ℕ} {s : SpanState} {seen : List Item} {top : ℕ} {done : List Span}

/-- **The whole scan**: the spans put out before and in it, and the one left open, cover the items passed before
and in it. -/
theorem spanRun_covers (hmax : 1 < max) (hint : 1 < interval) (es : List Item)
    (hsort : (es.map Prod.fst).Pairwise (· < ·)) (h : s.Ok max) (hopen : 0 < s.count → s.start + s.count = top)
    (htop : ∀ e ∈ es, top ≤ e.1) (hcov : Covers seen top (done ++ s.pending)) :
    (∃ top', Covers (seen ++ es) top'
        (done ++ (spanRun interval max es s).1 ++ (spanRun interval max es s).2.pending)) ∧
      (∀ q ∈ (spanRun interval max es s).1, q.Bounded interval max) ∧
      (es ≠ [] → (spanRun interval max es s).2.count = 0) := by
  induction es generalizing s seen top done with
  | nil =>
    simp only [spanRun, List.append_nil]
    exact ⟨⟨top, hcov⟩, nofun, fun h => absurd rfl h⟩
  | cons e es ih =>
    obtain ⟨key, wanted⟩ := e
    obtain ⟨hkeys, hsort⟩ := List.pairwise_cons.mp hsort
    have hkey : top ≤ key := htop _ List.mem_cons_self
    -- an open span ends where the keys seen so far end
    have hlast : 0 < s.count → s.last < key := by
      intro hpos
      have := h.last hpos
      have := hopen hpos
      omega
    obtain ⟨⟨hok, hat, hend⟩, hbound, hjoin⟩ := spanStep_joins wanted es.isEmpty hmax hint h hlast
    set r := spanStep interval max es.isEmpty (key, wanted) s with hr
    -- the item begins a span or is joined to the open one
    have hstep : Covers (seen ++ [(key, wanted)]) (key + 1) (done ++ r.2 ++ r.1.pending) := by
      rw [List.append_assoc]
      rcases hjoin with hjoin | ⟨rfl, hpos, hjoin⟩
      · rw [hjoin, ← List.append_assoc]
        cases wanted with
        | false =>
          rw [if_neg Bool.false_ne_true, List.append_nil]
          exact hcov.skip hkey
        | true => exact hcov.begin hkey
      · rw [hjoin]
        rw [pending_pos hpos] at hcov
        exact hcov.extend (hopen hpos) hkey
    have hnext : ∀ e ∈ es, key + 1 ≤ e.1 := fun e he => hkeys _ (List.mem_map_of_mem he)
    have hopen' : 0 < r.1.count → r.1.start + r.1.count = key + 1 := fun hpos => by rw [← hok.last hpos, hat]
    obtain ⟨⟨top', hcov'⟩, hbound', hend'⟩ := ih hsort hok hopen' hnext hstep
    have hrun : spanRun interval max ((key, wanted) :: es) s =
        (r.2 ++ (spanRun interval max es r.1).1, (spanRun interval max es r.1).2) := rfl
    rw [hrun]
    refine ⟨⟨top', ?_⟩, fun q hq => ?_, fun _ => ?_⟩
    · simpa only [List.append_assoc, List.singleton_append] using hcov'
    · rcases List.mem_append.mp hq with hq | hq
      · exact hbound q hq
      · exact hbound' q hq
    · cases es with
      | nil => exact hend rfl
      | cons e es => exact hend' (List.cons_ne_nil _ _)

/-- **The spans of a scan** cover its items, and each has between 1 and `max + interval - 2` keys. -/
theorem spans_cover (hmax : 1 < max) (hint : 1 < interval) {es : List Item}
    (hsort : (es.map Prod.fst).Pairwise (· < ·)) :
    (∃ top, Covers es top (spans interval max es)) ∧ ∀ q ∈ spans interval max es, q.Bounded interval max := by
  have hstart : Covers [] 0 ([] ++ SpanState.idle.pending) := covers_nil
  obtain ⟨⟨top, hcov⟩, hbound, hend⟩ := spanRun_covers hmax hint es hsort (idle_ok (Nat.lt_of_succ_lt hmax)) nofun
    (fun _ _ => Nat.zero_le _) hstart
  refine ⟨⟨top, ?_⟩, hbound⟩
  cases es with
  | nil => exact hcov
  | cons e es =>
    rw [pending_zero (hend (List.cons_ne_nil _ _)), List.append_nil, List.nil_append, List.nil_append] at hcov
    exact hcov

end Run

end GreeIntense.Lib.Spans
