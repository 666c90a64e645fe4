import GreeIntense.Lib.Rows

/-!
# Rows that are acknowledged while the scan goes on

A scan puts out rows of its entries (`Lib.Rows`), and every row that is put out is acknowledged before the
scan goes on: the acknowledgement changes the state from which the scan selects.  As the keys ascend, a row
is made up of entries already passed, so the scan makes the same rows as over the state it began with
(`ackedPass_rows`), and the state it ends with is that of the acknowledgements one after the other
(`ackedPass_leaves`); `acks_kept` and `acks_new` say what becomes of a part of the state.

`rows_quiet_iff` compares two scans, the second one selecting no more than the first: no entry of a row of
the first is in a row of the second exactly when none of them is selected there.
-/

namespace GreeIntense.Lib.Rows

variable {α ε σ ρ τ : Type}

/-! ### The scan with acknowledgements -/

/-- The state after the loop over the entries. -/
def leaves (pass : ε → σ → σ × Option ρ) : List ε → σ → σ
  | [], sc => sc
  | e :: es, sc => leaves pass es (pass e sc).1

/-- One pass: what it puts out is acknowledged. -/
def ackedPass (step : ε → τ → σ → σ × Option ρ) (ack : ρ → τ → τ) (e : ε) (s : σ × τ) : (σ × τ) × Option ρ :=
  let p := step e s.2 s.1
  match p.2 with
  | none => ((p.1, s.2), none)
  | some q => ((p.1, ack q s.2), some q)

theorem ackedPass_none {step : ε → τ → σ → σ × Option ρ} {ack : ρ → τ → τ} {e : ε} {s : σ × τ}
    (h : (step e s.2 s.1).2 = none) : ackedPass step ack e s = (((step e s.2 s.1).1, s.2), none) := by
  simp only [ackedPass, h]

theorem ackedPass_some {step : ε → τ → σ → σ × Option ρ} {ack : ρ → τ → τ} {e : ε} {s : σ × τ} {q : ρ}
    (h : (step e s.2 s.1).2 = some q) : ackedPass step ack e s = (((step e s.2 s.1).1, ack q s.2), some q) := by
  simp only [ackedPass, h]

/-- **The state after the loop** is that of the acknowledgements one after the other. -/
theorem ackedPass_leaves (step : ε → τ → σ → σ × Option ρ) (ack : ρ → τ → τ) (es : List ε) (s : σ × τ) :
    (leaves (ackedPass step ack) es s).2 =
      (outputs (ackedPass step ack) es s).foldl (fun r q => ack q r) s.2 := by
  induction es generalizing s with
  | nil => rfl
  | cons e es ih =>
    rw [leaves, ih, outputs, List.foldl_append]
    cases hq : (step e s.2 s.1).2 with
    | none =>
      rw [ackedPass_none hq]
      rfl
    | some q =>
      rw [ackedPass_some hq]
      rfl

/-! ### What the acknowledgements change -/

section Changes

variable {β : Type} {ack : ρ → τ → τ} {qs : List ρ} {f new : τ → β} {hits : ρ → Bool}

theorem forall_not_hit (h : ¬∃ q ∈ qs, hits q = true) : ∀ q ∈ qs, hits q = false := by
  intro q hq
  rw [Bool.eq_false_iff]
  intro hit
  exact h ⟨q, hq, hit⟩

theorem acks_kept (h : ∀ q ∈ qs, ∀ r, f (ack q r) = f r) (r : τ) : f (qs.foldl (fun r q => ack q r) r) = f r := by
  induction qs generalizing r with
  | nil => rfl
  | cons q qs ih =>
    rw [List.foldl_cons, ih fun t ht => h t (List.mem_cons_of_mem q ht)]
    exact h q List.mem_cons_self r

/-- **What a row that hits makes new** is new in the end: a later one makes it the same again, or leaves it. -/
theorem acks_new (hoff : ∀ q ∈ qs, ∀ r, hits q = false → f (ack q r) = f r)
    (hon : ∀ q ∈ qs, ∀ r, hits q = true → f (ack q r) = new r) (hnew : ∀ q ∈ qs, ∀ r, new (ack q r) = new r)
    (hhit : ∃ q ∈ qs, hits q = true) (r : τ) : f (qs.foldl (fun r q => ack q r) r) = new r := by
  induction qs generalizing r with
  | nil =>
    obtain ⟨q, hq, -⟩ := hhit
    cases hq
  | cons q qs ih =>
    have hoff' : ∀ t ∈ qs, ∀ r, hits t = false → f (ack t r) = f r :=
      fun t ht => hoff t (List.mem_cons_of_mem q ht)
    rw [List.foldl_cons]
    by_cases hlater : ∃ t ∈ qs, hits t = true
    · rw [ih hoff' (fun t ht => hon t (List.mem_cons_of_mem q ht)) (fun t ht => hnew t (List.mem_cons_of_mem q ht))
        hlater]
      exact hnew q List.mem_cons_self r
    · have hq : hits q = true := by
        obtain ⟨t, ht, hit⟩ := hhit
        rcases List.mem_cons.mp ht with rfl | ht
        · exact hit
        · exact absurd ⟨t, ht, hit⟩ hlater
      rw [acks_kept fun t ht r => hoff' t ht r (forall_not_hit hlater t ht)]
      exact hon q List.mem_cons_self r hq

end Changes

/-- The row has between 1 and `max` values, and all its keys are in the table. -/
structure Row.Inside (max : ℕ) (keys : List ℕ) (q : Row α) : Prop where
  pos : 1 ≤ q.vals.length
  le : q.vals.length ≤ max
  mem : ∀ k < q.vals.length, q.start + k ∈ keys

theorem Row.covers_iff {q : Row α} {key : ℕ} : q.covers key = true ↔ key ∈ q.cells.map Prod.fst := by
  rw [Row.cells, cellsFrom_keys, List.mem_range'_1]
  exact decide_eq_true_iff

theorem key_lt {key : ε → ℕ} {tab : List ε} (hsort : (tab.map key).Pairwise (· < ·)) {i j : ℕ} {e e' : ε}
    (he : tab[i]? = some e) (he' : tab[j]? = some e') (hij : i < j) : key e < key e' := by
  obtain ⟨hi, rfl⟩ := List.getElem?_eq_some_iff.mp he
  obtain ⟨hj, rfl⟩ := List.getElem?_eq_some_iff.mp he'
  have h := List.pairwise_iff_getElem.mp hsort i j (by simpa using hi) (by simpa using hj) hij
  simpa using h

section Acked

variable {key : ε → ℕ} {sel : ℕ → ε → τ → Option α} {step : ε → τ → σ → σ × Option ρ} {ack : ρ → τ → τ}
  {toRow : ρ → Row α} {R : ℕ → σ → RowState α → Prop} {tab : List ε} {max : ℕ} {alone : Bool}

/-- The key is one of the table, of an entry before `i`. -/
structure Before (key : ε → ℕ) (tab : List ε) (i k : ℕ) : Prop where
  mem : k ∈ tab.map key
  lt : ∀ j e, i ≤ j → tab[j]? = some e → k < key e

theorem before_entry (hsort : (tab.map key).Pairwise (· < ·)) {i : ℕ} {e : ε} (he : tab[i]? = some e) :
    Before key tab (i + 1) (key e) := by
  refine ⟨List.mem_map_of_mem (List.mem_of_getElem? he), ?_⟩
  intro j e' hj he'
  exact key_lt hsort he he' (by omega)

theorem before_cells (hsort : (tab.map key).Pairwise (· < ·)) {i : ℕ} {e : ε} (he : tab[i]? = some e)
    {cells : List (ℕ × α)} (h : ∀ c ∈ cells, Before key tab i c.1) (v : Option α) :
    ∀ c ∈ cells ++ selected [(key e, v)], Before key tab (i + 1) c.1 := by
  intro c hc
  rcases List.mem_append.mp hc with hc | hc
  · exact ⟨(h c hc).mem, fun j e' hj he' => (h c hc).lt j e' (by omega) he'⟩
  · have hitem : (c.1, some c.2) ∈ [(key e, v)] := mem_selected.mp hc
    rw [show c.1 = key e from congrArg Prod.fst (List.mem_singleton.mp hitem)]
    exact before_entry hsort he

theorem Row.inside_of_before {q : Row α} {i : ℕ} (hpos : 1 ≤ q.vals.length) (hle : q.vals.length ≤ max)
    (h : ∀ c ∈ q.cells, Before key tab i c.1) : q.Inside max (tab.map key) := by
  refine ⟨hpos, hle, fun k hk => ?_⟩
  have hmem : (q.start + k, q.vals[k]) ∈ q.cells := mem_cellsFrom.mpr ⟨k, List.getElem?_eq_getElem hk, rfl⟩
  exact (h _ hmem).mem

theorem Row.covers_of_before {q : Row α} {i j : ℕ} {e : ε} (h : ∀ c ∈ q.cells, Before key tab i c.1) (hj : i ≤ j)
    (he : tab[j]? = some e) : q.covers (key e) = false := by
  rw [Bool.eq_false_iff]
  intro hcov
  obtain ⟨c, hc, hkey⟩ := List.mem_map.mp (Row.covers_iff.mp hcov)
  exact absurd hkey (Nat.ne_of_lt ((h c hc).lt j e hj he))

/-- The last entry of the table is the one behind which there are no items. -/
theorem last_iff_items {sel : ℕ → ε → Option α} {es : List ε} {i n : ℕ} (hlen : i + (es.length + 1) = n) :
    decide (i = n - 1) = (items key sel (i + 1) es).isEmpty := by
  cases es with
  | nil =>
    rw [List.length_nil] at hlen
    exact decide_eq_true (by omega)
  | cons e es =>
    rw [List.length_cons] at hlen
    exact decide_eq_false (by omega)

theorem ackedPass_rows_suffix (hmax : 1 < max) (hsort : (tab.map key).Pairwise (· < ·))
    (hpass : ∀ i e sc s r, tab[i]? = some e → R i sc s → ∃ t, rowStep max alone (i = tab.length - 1) (key e)
      (sel i e r) s = (t, (step e r sc).2.map toRow) ∧ R (i + 1) (step e r sc).1 t)
    (hack : ∀ q r, (toRow q).Inside max (tab.map key) → ∀ j e, tab[j]? = some e →
      (toRow q).covers (key e) = false → sel j e (ack q r) = sel j e r)
    {es : List ε} {i : ℕ} {sc : σ} {s : RowState α} {r r' : τ} (hes : ∀ j, es[j]? = tab[i + j]?)
    (hlen : i + es.length = tab.length) (hR : R i sc s) (hok : s.Ok max)
    (hcells : ∀ c ∈ s.cells, Before key tab i c.1)
    (hsel : ∀ j e, i ≤ j → tab[j]? = some e → sel j e r' = sel j e r) :
    (outputs (ackedPass step ack) es (sc, r')).map toRow =
      (rowRun max alone (items key (fun i e => sel i e r) i es) s).1 := by
  induction es generalizing i sc s r' with
  | nil => rfl
  | cons e es ih =>
    have he : tab[i]? = some e := by rw [← Nat.add_zero i, ← hes 0]; rfl
    have hes' (j : ℕ) : es[j]? = tab[i + 1 + j]? := by
      rw [show i + 1 + j = i + (j + 1) by omega, ← hes (j + 1)]
      rfl
    rw [List.length_cons] at hlen
    obtain ⟨t, hstep, hnext⟩ := hpass i e sc s r' he hR
    rw [hsel i e (Nat.le_refl i) he] at hstep
    obtain ⟨htok, -, htcells, htlen⟩ := rowStep_cells alone hmax hok (i = tab.length - 1) (key e) (sel i e r)
    rw [hstep] at htok htcells htlen
    dsimp only at htok htcells htlen
    -- what was pending and the entry itself are before the entries to come
    have hbefore := before_cells hsort he hcells (sel i e r)
    rw [← htcells] at hbefore
    rw [outputs, items, rowRun, ← last_iff_items hlen, hstep]
    cases hq : (step e r' sc).2 with
    | none =>
      rw [hq] at hbefore
      rw [ackedPass_none hq]
      exact ih hes' (by omega) hnext htok hbefore fun j e' hj he' => hsel j e' (by omega) he'
    | some q =>
      -- the row put out is acknowledged, which changes no selection behind it
      rw [hq] at hbefore htlen
      rw [ackedPass_some hq]
      have hrow : ∀ c ∈ (toRow q).cells, Before key tab (i + 1) c.1 := fun c hc => hbefore c (by simp [hc])
      obtain ⟨hpos, hle⟩ := htlen (toRow q) rfl
      refine congrArg (List.cons (toRow q)) (ih hes' (by omega) hnext htok (fun c hc => ?_) fun j e' hj he' => ?_)
      · exact hbefore c (List.mem_append_right _ hc)
      · have hoff : (toRow q).covers (key e') = false := Row.covers_of_before hrow hj he'
        rw [hack q r' (Row.inside_of_before hpos hle hrow) j e' he' hoff, hsel j e' (by omega) he']

variable (key sel) in
/-- **The rows of a scan with acknowledgements** are those over the state it began with. -/
theorem ackedPass_rows (hmax : 1 < max) (hsort : (tab.map key).Pairwise (· < ·))
    (hpass : ∀ i e sc s r, tab[i]? = some e → R i sc s → ∃ t, rowStep max alone (i = tab.length - 1) (key e)
      (sel i e r) s = (t, (step e r sc).2.map toRow) ∧ R (i + 1) (step e r sc).1 t)
    (hack : ∀ q r, (toRow q).Inside max (tab.map key) → ∀ j e, tab[j]? = some e →
      (toRow q).covers (key e) = false → sel j e (ack q r) = sel j e r)
    {sc : σ} (hR : R 0 sc .idle) (r : τ) :
    (outputs (ackedPass step ack) tab (sc, r)).map toRow =
      rows max alone (items key (fun i e => sel i e r) 0 tab) := by
  refine ackedPass_rows_suffix hmax hsort hpass hack (fun j => by rw [Nat.zero_add]) (Nat.zero_add _) hR
    (idle_ok hmax) (fun c hc => ?_) fun _ _ _ _ => rfl
  cases hc

end Acked

/-! ### Two scans -/

section Two

variable {key : ε → ℕ} {sel sel' : ℕ → ε → Option α} {tab : List ε} {max i : ℕ} (alone : Bool) {e : ε}

theorem items_concat (e : ε) (es : List ε) :
    items key sel i (es ++ [e]) = items key sel i es ++ [(key e, sel (i + es.length) e)] := by
  induction es generalizing i with
  | nil => rfl
  | cons e' es ih =>
    rw [List.cons_append, items, ih, items, List.cons_append, List.length_cons,
      show i + 1 + es.length = i + (es.length + 1) by omega]

theorem trailing_concat_none (es : List (Item α)) (key last n : ℕ) : trailing (es ++ [(key, none)]) last n = 0 := by
  induction es generalizing last n with
  | nil => rfl
  | cons e es ih =>
    obtain ⟨k, v⟩ := e
    cases v with
    | none => exact ih k 0
    | some v => exact ih k _

variable (sel sel') in
theorem lastKey_items (es : List ε) (last : ℕ) :
    lastKey (items key sel i es) last = lastKey (items key sel' i es) last := by
  induction es generalizing i last with
  | nil => rfl
  | cons e es ih => exact ih (key e)

theorem index_of_key (hsort : (tab.map key).Pairwise (· < ·)) (he : tab[i]? = some e) {j : ℕ} {e' : ε}
    (he' : tab[j]? = some e') (hk : key e' = key e) : j = i := by
  rcases Nat.lt_trichotomy j i with h | h | h
  · exact absurd hk (Nat.ne_of_lt (key_lt hsort he' he h))
  · exact h
  · exact absurd hk.symm (Nat.ne_of_lt (key_lt hsort he he' h))

/-- The key of an entry is selected once or not at all. -/
theorem selected_count (hsort : (tab.map key).Pairwise (· < ·)) (he : tab[i]? = some e) :
    ((selected (items key sel 0 tab)).map Prod.fst).count (key e) = if (sel i e).isSome then 1 else 0 := by
  have hsort' : ((items key sel 0 tab).map Prod.fst).Pairwise (· < ·) := by
    rw [items_keys]
    exact hsort
  have hnodup : ((selected (items key sel 0 tab)).map Prod.fst).Nodup :=
    (hsort'.imp fun h => Nat.ne_of_lt h).sublist (selected_keys_sublist _)
  rw [hnodup.count]
  congr 1
  rw [List.mem_map]
  apply propext
  constructor
  · rintro ⟨⟨k, v⟩, hmem, hk⟩
    obtain ⟨j, e', he', hk', hv⟩ := mem_items.mp (mem_selected.mp hmem)
    have hj := index_of_key hsort he he' (hk'.trans hk)
    subst hj
    rw [he] at he'
    cases he'
    rw [Nat.zero_add] at hv
    rw [hv]
    rfl
  · intro h
    obtain ⟨v, hv⟩ := Option.isSome_iff_exists.mp h
    exact ⟨(key e, v), mem_selected.mpr (mem_items.mpr ⟨i, e, he, rfl, by rw [Nat.zero_add]; exact hv⟩), rfl⟩

/-- An entry is pending after the loop when it is the last one, and left out. -/
theorem pending_count_pos (hmax : 1 < max) (hsort : (tab.map key).Pairwise (· < ·)) (he : tab[i]? = some e) :
    0 < ((rowRun max alone (items key sel 0 tab) .idle).2.cells.map Prod.fst).count (key e) ↔
      LastLost max alone (items key sel 0 tab) ∧ i + 1 = tab.length := by
  rcases List.eq_nil_or_concat tab with rfl | ⟨init, last, rfl⟩
  · cases he
  · rw [List.concat_eq_append] at he hsort ⊢
    have hat : (init ++ [last])[init.length]? = some last := by simp
    have hlen : i + 1 = (init ++ [last]).length ↔ key last = key e := by
      rw [List.length_append, List.length_singleton]
      constructor
      · intro hi
        obtain rfl : i = init.length := by omega
        rw [hat] at he
        cases he
        rfl
      · intro hk
        rw [index_of_key hsort he hat hk]
    -- only the last item can be left pending
    rw [items_concat, rowRun_pending alone hmax (n := 0) (by simp [RowState.idle]), lastLost_concat, Nat.zero_add,
      hlen, show (RowState.idle : RowState α).last = 0 from rfl]
    cases sel init.length last with
    | none => simp
    | some w =>
      by_cases hc : key last = lastKey (items key sel 0 init) 0 + 1 ∨
          alone = true ∧ trailing (items key sel 0 init) 0 0 % max = 0
      · rw [if_pos hc]
        constructor
        · intro h
          simp at h
        · rintro ⟨⟨-, hk, ht⟩, -⟩
          rcases hc with hc | ⟨ha, hc⟩
          · exact absurd hc hk
          · exact absurd hc (ht ha)
      · rw [if_neg hc, selected_cons_some, selected_nil, List.map_singleton, List.count_pos_iff,
          List.mem_singleton]
        constructor
        · intro hk
          exact ⟨⟨rfl, fun h => hc (Or.inl h), fun ha ht => hc (Or.inr ⟨ha, ht⟩)⟩, hk.symm⟩
        · rintro ⟨-, hk⟩
          exact hk.symm

/-- **Which entries are in a row**: those selected, but for the last one when it is left out. -/
theorem rows_covers_iff (hmax : 1 < max) (hsort : (tab.map key).Pairwise (· < ·)) (he : tab[i]? = some e) :
    (∃ q ∈ rows max alone (items key sel 0 tab), q.covers (key e)) ↔
      (sel i e).isSome ∧ ¬(LastLost max alone (items key sel 0 tab) ∧ i + 1 = tab.length) := by
  -- the selected keys are those of the rows and those pending, and each is selected once
  have hkeys := rows_keys alone hmax (items key sel 0 tab) (key e)
  have hcov : (∃ q ∈ rows max alone (items key sel 0 tab), q.covers (key e)) ↔
      0 < (rows max alone (items key sel 0 tab)).countP (·.covers (key e)) := List.countP_pos_iff.symm
  rw [hcov, ← pending_count_pos alone hmax hsort he]
  rw [selected_count hsort he] at hkeys
  by_cases hsome : (sel i e).isSome
  · rw [if_pos hsome] at hkeys
    constructor
    · intro h
      exact ⟨hsome, by omega⟩
    · rintro ⟨-, h⟩
      omega
  · rw [if_neg hsome] at hkeys
    constructor
    · intro h
      omega
    · rintro ⟨h, -⟩
      exact absurd h hsome

/-- **The second scan is quiet about the rows of the first** exactly when it selects none of their entries: the
one that it could leave out is the last of others that it selects, too. -/
theorem rows_quiet_iff (hmax : 1 < max) (hsort : (tab.map key).Pairwise (· < ·))
    (hsub : ∀ (i : ℕ) e, tab[i]? = some e → (sel' i e).isSome → (sel i e).isSome) :
    (∀ (i : ℕ) e, tab[i]? = some e → (∃ q ∈ rows max alone (items key sel 0 tab), q.covers (key e)) →
      ¬∃ q ∈ rows max alone (items key sel' 0 tab), q.covers (key e)) ↔
    ∀ (i : ℕ) e, tab[i]? = some e → (∃ q ∈ rows max alone (items key sel 0 tab), q.covers (key e)) →
      sel' i e = none := by
  constructor
  · intro hquiet
    by_contra hno
    push Not at hno
    obtain ⟨i, e, he, hcov, hsel⟩ := hno
    have hsome : (sel' i e).isSome := Option.isSome_iff_ne_none.mpr hsel
    have hout := hquiet i e he hcov
    rw [rows_covers_iff alone hmax hsort he] at hcov hout
    have hlost : LastLost max alone (items key sel' 0 tab) ∧ i + 1 = tab.length := by
      by_contra h
      exact hout ⟨hsome, h⟩
    obtain ⟨hlost, hi⟩ := hlost
    rcases List.eq_nil_or_concat tab with rfl | ⟨init, last, rfl⟩
    · cases he
    rw [List.concat_eq_append] at *
    rw [items_concat, lastLost_concat] at hlost hcov
    obtain ⟨-, hkey, htrail⟩ := hlost
    have hi' : i = init.length := by
      rw [List.length_append, List.length_singleton] at hi
      omega
    subst hi'
    have hat : (init ++ [last])[init.length]? = some last := by simp
    rw [hat] at he
    cases he
    rw [lastKey_items sel' sel] at hkey
    -- the first scan has put the last entry out alone, the second one selects the entry before it
    have halone : alone = true ∧ trailing (items key sel 0 init) 0 0 % max = 0 := by
      by_contra h
      refine hcov.2 ⟨⟨?_, hkey, fun ha ht => h ⟨ha, ht⟩⟩, hi⟩
      rw [Nat.zero_add]
      exact hcov.1
    have hne : trailing (items key sel' 0 init) 0 0 ≠ 0 := by
      intro h0
      apply htrail halone.1
      rw [h0, Nat.zero_mod]
    rcases List.eq_nil_or_concat init with rfl | ⟨init', e', rfl⟩
    · exact hne rfl
    rw [List.concat_eq_append] at *
    have he' : (init' ++ [e'] ++ [e])[init'.length]? = some e' := by simp
    have hsel' : (sel' init'.length e').isSome := by
      rw [Option.isSome_iff_ne_none]
      intro hnone
      rw [items_concat, Nat.zero_add, hnone, trailing_concat_none] at hne
      exact hne rfl
    have hnotlast : init'.length + 1 ≠ (init' ++ [e'] ++ [e]).length := by simp
    have hcov' := (rows_covers_iff alone hmax hsort he').mpr ⟨hsub _ _ he' hsel', fun h => hnotlast h.2⟩
    exact hquiet _ _ he' hcov' ((rows_covers_iff alone hmax hsort he').mpr ⟨hsel', fun h => hnotlast h.2⟩)
  · intro hnone i e he hcov hcov'
    have hsome := ((rows_covers_iff alone hmax hsort he).mp hcov').1
    rw [hnone i e he hcov] at hsome
    cases hsome

end Two

end GreeIntense.Lib.Rows
