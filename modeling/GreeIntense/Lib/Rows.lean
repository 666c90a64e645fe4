import Mathlib.Data.List.Basic
import Mathlib.Data.List.Pairwise
import Mathlib.Tactic.Common

/-!
# Rows of consecutive keys

A scan goes over items with ascending keys, of which some are selected and carry a value.  It collects the
values of selected items with consecutive keys and puts each such row out with its first key; a row is also
put out when it has reached a maximal length and at the last item.

`rowStep` is one item and `rowRun` the whole scan.  The rows put out, joined again, are the selected items in
their order, but for a row that is still pending at the end (`rowRun_cells`).  When the last item begins a
row behind another one, it stays pending; `rowRun_pending` says exactly when.  `alone` tells whether a last
item that begins a row with nothing pending is put out all the same.
-/

namespace GreeIntense.Lib.Rows

/-- An item of the scan: its key, and its value when it is selected. -/
abbrev Item (α : Type) := ℕ × Option α

/-- A row put out: the values of the keys from `start` on. -/
structure Row (α : Type) where
  start : ℕ
  vals : List α

/-- The scan between two items: the last key, and the row that is pending, if `vals` is not empty. -/
structure RowState (α : Type) where
  last : ℕ
  start : ℕ
  vals : List α

variable {α : Type}

/-- The keys and values of a row that starts at `start`. -/
def cellsFrom : ℕ → List α → List (ℕ × α)
  | _, [] => []
  | start, v :: vs => (start, v) :: cellsFrom (start + 1) vs

def Row.cells (q : Row α) : List (ℕ × α) := cellsFrom q.start q.vals

/-- The keys and values that are pending. -/
def RowState.cells (s : RowState α) : List (ℕ × α) := cellsFrom s.start s.vals

/-- The selected items, with their values. -/
def selected (es : List (Item α)) : List (ℕ × α) := es.filterMap fun e => e.2.map fun v => (e.1, v)

/-- One item. -/
def rowStep (max : ℕ) (alone isLast : Bool) (key : ℕ) (v : Option α) (s : RowState α) :
    RowState α × Option (Row α) :=
  match v with
  | none => (⟨key, s.start, []⟩, if s.vals = [] then none else some ⟨s.start, s.vals⟩)
  | some v =>
    if s.vals = [] then
      if isLast ∧ (alone ∨ key = s.last + 1) then (⟨key, key, []⟩, some ⟨key, [v]⟩) else (⟨key, key, [v]⟩, none)
    else if key ≠ s.last + 1 then (⟨key, key, [v]⟩, some ⟨s.start, s.vals⟩)
    else if isLast ∨ max ≤ s.vals.length + 1 then (⟨key, s.start, []⟩, some ⟨s.start, s.vals ++ [v]⟩)
    else (⟨key, s.start, s.vals ++ [v]⟩, none)

/-- The scan over the items `es`: the rows put out and what is left. -/
def rowRun (max : ℕ) (alone : Bool) : List (Item α) → RowState α → List (Row α) × RowState α
  | [], s => ([], s)
  | e :: es, s =>
    let r := rowStep max alone es.isEmpty e.1 e.2 s
    let t := rowRun max alone es r.1
    (r.2.toList ++ t.1, t.2)

/-- The pending row ends with the last key, and it is shorter than `max`. -/
structure RowState.Ok (max : ℕ) (s : RowState α) : Prop where
  last : s.vals ≠ [] → s.last + 1 = s.start + s.vals.length
  short : s.vals.length < max

/-! ### Cells -/

@[simp] theorem selected_nil : selected ([] : List (Item α)) = [] := rfl

@[simp] theorem selected_cons_none (k : ℕ) (es : List (Item α)) : selected ((k, none) :: es) = selected es := rfl

@[simp] theorem selected_cons_some (k : ℕ) (v : α) (es : List (Item α)) :
    selected ((k, some v) :: es) = (k, v) :: selected es := rfl

theorem cellsFrom_append (start : ℕ) (vs ws : List α) :
    cellsFrom start (vs ++ ws) = cellsFrom start vs ++ cellsFrom (start + vs.length) ws := by
  induction vs generalizing start with
  | nil => rfl
  | cons v vs ih =>
    rw [List.cons_append, cellsFrom, cellsFrom, ih, List.cons_append, List.length_cons,
      show start + 1 + vs.length = start + (vs.length + 1) by omega]

theorem mem_cellsFrom {start : ℕ} {vs : List α} {c : ℕ × α} :
    c ∈ cellsFrom start vs ↔ ∃ k, vs[k]? = some c.2 ∧ c.1 = start + k := by
  induction vs generalizing start with
  | nil => simp [cellsFrom]
  | cons v vs ih =>
    rw [cellsFrom, List.mem_cons, ih]
    constructor
    · rintro (rfl | ⟨k, hk, hc⟩)
      · exact ⟨0, rfl, rfl⟩
      · exact ⟨k + 1, hk, by omega⟩
    · rintro ⟨k, hk, hc⟩
      cases k with
      | zero => exact Or.inl (Prod.ext (by simpa using hc) (by simpa using hk.symm))
      | succ k => exact Or.inr ⟨k, hk, by omega⟩

theorem cellsFrom_keys (start : ℕ) (vs : List α) :
    (cellsFrom start vs).map Prod.fst = List.range' start vs.length := by
  induction vs generalizing start with
  | nil => rfl
  | cons v vs ih => rw [cellsFrom, List.map_cons, ih, List.length_cons, List.range'_succ]

/-! ### The rows joined again -/

section Scan

variable {max : ℕ} (alone : Bool) {s : RowState α}

/-- **One item**: what is put out and what is then pending are what was pending and the item, if it is
selected.  A row put out has between 1 and `max` values. -/
theorem rowStep_cells (hmax : 1 < max) (h : s.Ok max) (isLast : Bool) (key : ℕ) (v : Option α) :
    (rowStep max alone isLast key v s).1.Ok max ∧ (rowStep max alone isLast key v s).1.last = key ∧
      ((rowStep max alone isLast key v s).2.toList.flatMap Row.cells ++ (rowStep max alone isLast key v s).1.cells =
        s.cells ++ selected [(key, v)]) ∧
      ∀ q, (rowStep max alone isLast key v s).2 = some q → 1 ≤ q.vals.length ∧ q.vals.length ≤ max := by
  obtain ⟨hlast, hshort⟩ := h
  have hpos : s.vals ≠ [] → 1 ≤ s.vals.length := fun h => List.length_pos_iff.mpr h
  cases v with
  | none =>
    by_cases hv : s.vals = []
    · -- nothing is pending, and nothing is selected
      simp only [rowStep, hv, if_true]
      exact ⟨⟨nofun, by simp; omega⟩, trivial, by simp [RowState.cells, hv, cellsFrom], nofun⟩
    · -- the pending row ends here
      simp only [rowStep, hv, if_false]
      refine ⟨⟨nofun, by simp; omega⟩, trivial, by simp [RowState.cells, Row.cells, cellsFrom], ?_⟩
      intro q hq
      cases hq
      exact ⟨hpos hv, Nat.le_of_lt hshort⟩
  | some v =>
    by_cases hv : s.vals = []
    · simp only [rowStep, hv, if_true]
      split
      · refine ⟨⟨nofun, by simp; omega⟩, rfl, by simp [RowState.cells, Row.cells, hv, cellsFrom], ?_⟩
        intro q hq
        cases hq
        exact ⟨Nat.le_refl 1, Nat.le_of_lt hmax⟩
      · exact ⟨⟨fun _ => rfl, hmax⟩, rfl, by simp [RowState.cells, hv, cellsFrom], nofun⟩
    · have hlast := hlast hv
      have hpos := hpos hv
      simp only [rowStep, hv, if_false]
      split
      · -- a gap: the row is put out, and the item begins the next one
        refine ⟨⟨fun _ => rfl, hmax⟩, rfl, by simp [RowState.cells, Row.cells, cellsFrom], ?_⟩
        intro q hq
        cases hq
        exact ⟨hpos, Nat.le_of_lt hshort⟩
      · rename_i hgap
        have hkey : s.start + s.vals.length = key := by omega
        split
        · -- the row is full, or the items are at their end
          refine ⟨⟨nofun, by simp; omega⟩, rfl, ?_, fun q hq => ?_⟩
          · simp [RowState.cells, Row.cells, cellsFrom_append, cellsFrom, hkey]
          · cases hq
            rw [List.length_append, List.length_singleton]
            omega
        · rename_i hfull
          refine ⟨⟨fun _ => ?_, ?_⟩, rfl, ?_, nofun⟩
          · dsimp only
            rw [List.length_append, List.length_singleton]
            omega
          · rw [List.length_append, List.length_singleton]
            by_contra hlt
            exact hfull (Or.inr (by omega))
          · simp [RowState.cells, cellsFrom_append, cellsFrom, hkey]

/-- **The whole scan**: the rows put out and the row left pending, joined, are the row pending at the start
and the selected items. -/
theorem rowRun_cells (hmax : 1 < max) (es : List (Item α)) (h : s.Ok max) :
    ((rowRun max alone es s).1.flatMap Row.cells ++ (rowRun max alone es s).2.cells = s.cells ++ selected es) ∧
      ∀ q ∈ (rowRun max alone es s).1, 1 ≤ q.vals.length ∧ q.vals.length ≤ max := by
  induction es generalizing s with
  | nil => exact ⟨by simp [rowRun], by simp [rowRun]⟩
  | cons e es ih =>
    obtain ⟨key, v⟩ := e
    obtain ⟨hok, -, hcells, hq⟩ := rowStep_cells alone hmax h es.isEmpty key v
    obtain ⟨ihc, ihq⟩ := ih hok
    simp only [rowRun]
    constructor
    · have hsel : selected ((key, v) :: es) = selected [(key, v)] ++ selected es := by
        cases v <;> rfl
      rw [List.flatMap_append, List.append_assoc, ihc, ← List.append_assoc, hcells, hsel, List.append_assoc]
    · intro q hmem
      rcases List.mem_append.mp hmem with hmem | hmem
      · exact hq q (Option.mem_toList.mp hmem)
      · exact ihq q hmem

/-! ### What stays pending -/

/-- The length of the row of consecutive selected items that the list ends with, behind a row of `n` whose
last key is `last`. -/
def trailing : List (Item α) → ℕ → ℕ → ℕ
  | [], _, n => n
  | (key, none) :: es, _, _ => trailing es key 0
  | (key, some _) :: es, last, n => trailing es key (if key = last + 1 then n + 1 else 1)

/-- The key of the last item, `last` when there is none. -/
def lastKey : List (Item α) → ℕ → ℕ
  | [], last => last
  | e :: es, _ => lastKey es e.1

/-- The pending row is the row of consecutive selected items, without the full rows put out. -/
theorem rowStep_length (hmax : 1 < max) {n : ℕ} (h : s.vals.length = n % max) (key : ℕ) (v : Option α) :
    (rowStep max alone false key v s).1.vals.length =
      (if v.isSome then if key = s.last + 1 then n + 1 else 1 else 0) % max := by
  have hlt : n % max < max := Nat.mod_lt _ (by omega)
  have hone : 1 % max = 1 := Nat.mod_eq_of_lt hmax
  have hsucc : (n + 1) % max = if n % max + 1 = max then 0 else n % max + 1 := by
    rw [Nat.add_mod, hone]
    split
    · rename_i hfull
      rw [hfull, Nat.mod_self]
    · exact Nat.mod_eq_of_lt (by omega)
  cases v with
  | none => simp [rowStep]
  | some v =>
    by_cases hv : s.vals = []
    · rw [hv, List.length_nil] at h
      by_cases hkey : key = s.last + 1
      · have hne : ¬1 = max := by omega
        simp [rowStep, hv, hkey, hsucc, ← h, hne]
      · simp [rowStep, hv, hkey, hone]
    · by_cases hkey : key = s.last + 1
      · by_cases hfull : max ≤ s.vals.length + 1
        · have heq : n % max + 1 = max := by omega
          simp [rowStep, hv, hkey, hsucc, heq, hfull]
        · have hne : ¬n % max + 1 = max := by omega
          have hroom : ¬max ≤ n % max + 1 := by omega
          simp [rowStep, hv, hkey, hsucc, hne, hroom, h]
      · simp [rowStep, hv, hkey, hone]

theorem rowStep_last (isLast : Bool) (key : ℕ) (v : Option α) : (rowStep max alone isLast key v s).1.last = key := by
  unfold rowStep
  split
  · rfl
  · split
    · split <;> rfl
    · split
      · rfl
      · split <;> rfl

/-- **What stays pending**: only the last item, when it is selected, its key does not follow the key before
it, and a row is pending there or it would have to be put out alone. -/
theorem rowRun_pending (hmax : 1 < max) {n : ℕ} (h : s.vals.length = n % max) (es : List (Item α)) (key : ℕ)
    (v : Option α) :
    (rowRun max alone (es ++ [(key, v)]) s).2.cells =
      if key = lastKey es s.last + 1 ∨ alone ∧ trailing es s.last n % max = 0 then [] else selected [(key, v)] := by
  induction es generalizing s n with
  | nil =>
    change (rowStep max alone true key v s).1.cells =
      if key = s.last + 1 ∨ alone ∧ n % max = 0 then [] else selected [(key, v)]
    cases v with
    | none =>
      have hsel : selected [(key, (none : Option α))] = [] := rfl
      rw [hsel, ite_self]
      rfl
    | some v =>
      -- what the last item finds pending
      by_cases hv : s.vals = []
      · have h0 : n % max = 0 := by rw [← h, hv, List.length_nil]
        by_cases hc : alone = true ∨ key = s.last + 1
        · have hc' : key = s.last + 1 ∨ alone = true ∧ n % max = 0 := hc.symm.imp_right fun h => ⟨h, h0⟩
          simp [rowStep, hv, hc, hc', RowState.cells, cellsFrom]
        · have hc' : ¬(key = s.last + 1 ∨ alone = true ∧ n % max = 0) := fun h => hc (h.symm.imp_left And.left)
          simp [rowStep, hv, hc, hc', RowState.cells, cellsFrom]
      · have h0 : n % max ≠ 0 := by
          rw [← h]
          exact fun h => hv (List.length_eq_zero_iff.mp h)
        by_cases hkey : key = s.last + 1
        · simp [rowStep, hv, hkey, RowState.cells, cellsFrom]
        · simp [rowStep, hv, hkey, h0, RowState.cells, cellsFrom]
  | cons e es ih =>
    obtain ⟨k, w⟩ := e
    have hne : (es ++ [(key, v)]).isEmpty = false := by simp
    have hlen := rowStep_length alone hmax h k w
    simp only [List.cons_append, rowRun, hne]
    rw [ih hlen, rowStep_last]
    cases w with
    | none => rfl
    | some w => rfl

end Scan

/-! ### Which row a key is in -/

/-- The key is one of the row. -/
def Row.covers (q : Row α) (key : ℕ) : Bool := q.start ≤ key ∧ key < q.start + q.vals.length

/-- **A key is in as many rows as it has cells.** -/
theorem rows_countP (rows : List (Row α)) (key : ℕ) :
    rows.countP (·.covers key) = ((rows.flatMap Row.cells).map Prod.fst).count key := by
  induction rows with
  | nil => rfl
  | cons q rows ih =>
    have hq : (q.cells.map Prod.fst).count key = if q.covers key then 1 else 0 := by
      rw [Row.cells, cellsFrom_keys, List.count_range_1']
      simp [Row.covers]
    rw [List.countP_cons, ih, List.flatMap_cons, List.map_append, List.count_append, hq, Nat.add_comm]

/-! ### A scan from the start -/

section Whole

variable {max : ℕ} (alone : Bool) {es : List (Item α)}

/-- The scan before the first item. -/
def RowState.idle : RowState α := ⟨0, 0, []⟩

/-- The rows a scan of the items puts out. -/
def rows (max : ℕ) (alone : Bool) (es : List (Item α)) : List (Row α) := (rowRun max alone es .idle).1

/-- **The last item is left out**: it is selected, its key does not follow the one before it, and the row of
consecutive selected items before it is not made up of full rows (`alone`), whatever that row (else). -/
def LastLost (max : ℕ) (alone : Bool) (es : List (Item α)) : Prop :=
  ∃ init key v, es = init ++ [(key, some v)] ∧ key ≠ lastKey init 0 + 1 ∧
    (alone → trailing init 0 0 % max ≠ 0)

theorem lastLost_concat {init : List (Item α)} {key : ℕ} {w : Option α} : LastLost max alone (init ++ [(key, w)]) ↔
    w.isSome ∧ key ≠ lastKey init 0 + 1 ∧ (alone → trailing init 0 0 % max ≠ 0) := by
  constructor
  · rintro ⟨init', key', v, h, hlost⟩
    obtain ⟨rfl, hlast⟩ := List.append_inj' h rfl
    cases hlast
    exact ⟨rfl, hlost⟩
  · rintro ⟨hw, hlost⟩
    obtain ⟨v, rfl⟩ := Option.isSome_iff_exists.mp hw
    exact ⟨init, key, v, rfl, hlost⟩

theorem idle_ok (hmax : 1 < max) : (RowState.idle : RowState α).Ok max :=
  ⟨fun h => absurd rfl h, by simp only [RowState.idle, List.length_nil]; omega⟩

theorem mem_selected {key : ℕ} {v : α} : (key, v) ∈ selected es ↔ (key, some v) ∈ es := by
  induction es with
  | nil => simp
  | cons e es ih =>
    obtain ⟨k, w⟩ := e
    cases w with
    | none => simp [ih]
    | some w => simp [ih]

theorem selected_keys_sublist (es : List (Item α)) : ((selected es).map Prod.fst).Sublist (es.map Prod.fst) := by
  induction es with
  | nil => exact List.Sublist.refl _
  | cons e es ih =>
    obtain ⟨k, w⟩ := e
    cases w with
    | none => exact ih.cons _
    | some w => exact ih.cons_cons _

theorem rows_keys (hmax : 1 < max) (es : List (Item α)) (key : ℕ) :
    (rows max alone es).countP (·.covers key) + ((rowRun max alone es .idle).2.cells.map Prod.fst).count key =
      ((selected es).map Prod.fst).count key := by
  obtain ⟨hcells, -⟩ := rowRun_cells alone hmax es (idle_ok hmax)
  have hidle : (RowState.idle : RowState α).cells = [] := rfl
  rw [hidle, List.nil_append] at hcells
  rw [rows_countP, ← List.count_append, ← List.map_append, rows, hcells]

/-- **What a row holds**: between 1 and `max` values, each of the selected item of its key. -/
theorem rows_sound (hmax : 1 < max) {q : Row α} (hq : q ∈ rows max alone es) :
    (1 ≤ q.vals.length ∧ q.vals.length ≤ max) ∧ ∀ k v, q.vals[k]? = some v → (q.start + k, some v) ∈ es := by
  obtain ⟨hcells, hlen⟩ := rowRun_cells alone hmax es (idle_ok hmax)
  refine ⟨hlen q hq, fun k v hv => mem_selected.mp ?_⟩
  have hidle : (RowState.idle : RowState α).cells = [] := rfl
  rw [hidle, List.nil_append] at hcells
  rw [← hcells]
  refine List.mem_append_left _ (List.mem_flatMap.mpr ⟨q, hq, ?_⟩)
  exact mem_cellsFrom.mpr ⟨k, hv, rfl⟩

/-- **No key is put out twice.** -/
theorem rows_countP_le (hmax : 1 < max) (hsort : (es.map Prod.fst).Pairwise (· < ·)) (key : ℕ) :
    (rows max alone es).countP (·.covers key) ≤ 1 := by
  have hnodup : ((selected es).map Prod.fst).Nodup :=
    (hsort.imp fun h => Nat.ne_of_lt h).sublist (selected_keys_sublist es)
  have hkeys := rows_keys alone hmax es key
  have hle := List.nodup_iff_count.mp hnodup key
  omega

/-- **A selected item is put out exactly once, unless it is a last item left out.** -/
theorem rows_complete_iff (hmax : 1 < max) (hsort : (es.map Prod.fst).Pairwise (· < ·)) :
    (∀ key v, (key, some v) ∈ es → (rows max alone es).countP (·.covers key) = 1) ↔ ¬LastLost max alone es := by
  have hnodup : ((selected es).map Prod.fst).Nodup :=
    (hsort.imp fun h => Nat.ne_of_lt h).sublist (selected_keys_sublist es)
  -- a selected key is in a row or in what is left pending, once
  have hone {key : ℕ} {v : α} (h : (key, some v) ∈ es) : ((selected es).map Prod.fst).count key = 1 := by
    rw [hnodup.count, if_pos (List.mem_map.mpr ⟨(key, v), mem_selected.mpr h, rfl⟩)]
  constructor
  · rintro h ⟨init, key, v, rfl, hkey, halone⟩
    have hmem : (key, some v) ∈ init ++ [(key, some v)] := by simp
    have hkeys := rows_keys alone hmax (init ++ [(key, some v)]) key
    have hno : ¬(key = lastKey init 0 + 1 ∨ alone = true ∧ trailing init 0 0 % max = 0) := by
      rintro (h | ⟨ha, ht⟩)
      · exact hkey h
      · exact halone ha ht
    rw [rowRun_pending alone hmax (n := 0) (by simp [RowState.idle]), hone hmem, h key v hmem] at hkeys
    rw [show (RowState.idle : RowState α).last = 0 from rfl, if_neg hno] at hkeys
    simp at hkeys
  · intro hno key v hmem
    have hkeys := rows_keys alone hmax es key
    have hnone : (rowRun max alone es .idle).2.cells = [] := by
      rcases List.eq_nil_or_concat es with rfl | ⟨init, ⟨k, w⟩, rfl⟩
      · rfl
      · rw [List.concat_eq_append, rowRun_pending alone hmax (n := 0) (by simp [RowState.idle])]
        cases w with
        | none => exact ite_self _
        | some w =>
          split
          · rfl
          · rename_i hc
            refine absurd ⟨init, k, w, List.concat_eq_append, fun hk => hc (Or.inl hk), fun ha ht => ?_⟩ hno
            exact hc (Or.inr ⟨ha, ht⟩)
    rw [hnone, hone hmem] at hkeys
    simpa using hkeys

end Whole

/-! ### A loop that makes rows

A program goes over its entries with a state of its own, and every pass may put something out.  If the
passes follow `rowStep`, what is put out are the rows of the entries. -/

section Loop

variable {ε σ ρ : Type}

/-- The entries from index `i` on as items. -/
def items (key : ε → ℕ) (sel : ℕ → ε → Option α) : ℕ → List ε → List (Item α)
  | _, [] => []
  | i, e :: es => (key e, sel i e) :: items key sel (i + 1) es

/-- The loop over the entries: what its passes put out. -/
def outputs (pass : ε → σ → σ × Option ρ) : List ε → σ → List ρ
  | [], _ => []
  | e :: es, sc =>
    let p := pass e sc
    p.2.toList ++ outputs pass es p.1

variable {key : ε → ℕ} {sel : ℕ → ε → Option α} {es : List ε} {i max : ℕ} (alone : Bool)

theorem items_keys : (items key sel i es).map Prod.fst = es.map key := by
  induction es generalizing i with
  | nil => rfl
  | cons e es ih => rw [items, List.map_cons, List.map_cons, ih]

theorem mem_items {k : ℕ} {v : Option α} :
    (k, v) ∈ items key sel i es ↔ ∃ j e, es[j]? = some e ∧ key e = k ∧ sel (i + j) e = v := by
  induction es generalizing i with
  | nil => simp [items]
  | cons e es ih =>
    rw [items, List.mem_cons, ih]
    constructor
    · rintro (h | ⟨j, e', he', hk, hv⟩)
      · obtain ⟨hk, hv⟩ := Prod.mk.inj h
        exact ⟨0, e, rfl, hk.symm, hv.symm⟩
      · exact ⟨j + 1, e', he', hk, by rw [show i + (j + 1) = i + 1 + j by omega]; exact hv⟩
    · rintro ⟨j, e', he', hk, hv⟩
      cases j with
      | zero =>
        cases he'
        exact Or.inl (Prod.ext hk.symm hv.symm)
      | succ j => exact Or.inr ⟨j, e', he', hk, by rw [show i + 1 + j = i + (j + 1) by omega]; exact hv⟩

/-- **The loop puts out the rows of its items**, when every pass follows `rowStep` in a relation `R` between its
state, with the index of the entry, and the row that is pending. -/
theorem outputs_rows {pass : ε → σ → σ × Option ρ} {toRow : ρ → Row α} {R : ℕ → σ → RowState α → Prop} {count : ℕ}
    (hpass : ∀ i e sc s, R i sc s → ∃ t, rowStep max alone (i = count - 1) (key e) (sel i e) s =
      (t, (pass e sc).2.map toRow) ∧ R (i + 1) (pass e sc).1 t)
    {sc : σ} {s : RowState α} (h : R i sc s) (hcount : i + es.length = count) :
    (outputs pass es sc).map toRow = (rowRun max alone (items key sel i es) s).1 := by
  induction es generalizing i sc s with
  | nil => rfl
  | cons e es ih =>
    obtain ⟨t, hstep, hnext⟩ := hpass i e sc s h
    rw [List.length_cons] at hcount
    have hlast : decide (i = count - 1) = (items key sel (i + 1) es).isEmpty := by
      cases es with
      | nil =>
        rw [List.length_nil] at hcount
        exact decide_eq_true (by omega)
      | cons e' es' =>
        rw [List.length_cons] at hcount
        exact decide_eq_false (by omega)
    rw [outputs, items, rowRun, ← hlast, hstep, List.map_append, ih hnext (by omega)]
    cases (pass e sc).2 <;> rfl

/-- **What a row of the entries holds.** -/
theorem rows_items_sound (hmax : 1 < max) {q : Row α} (hq : q ∈ rows max alone (items key sel 0 es)) :
    (1 ≤ q.vals.length ∧ q.vals.length ≤ max) ∧ ∀ k v, q.vals[k]? = some v →
      ∃ i e, es[i]? = some e ∧ key e = q.start + k ∧ sel i e = some v := by
  obtain ⟨hlen, hcells⟩ := rows_sound alone hmax hq
  refine ⟨hlen, ?_⟩
  intro k v hv
  obtain ⟨i, e, he, hkey, hsel⟩ := mem_items.mp (hcells k v hv)
  rw [Nat.zero_add] at hsel
  exact ⟨i, e, he, hkey, hsel⟩

/-- **No entry is put out twice.** -/
theorem rows_items_countP_le (hmax : 1 < max) (hsort : (es.map key).Pairwise (· < ·)) (k : ℕ) :
    (rows max alone (items key sel 0 es)).countP (·.covers k) ≤ 1 := by
  apply rows_countP_le alone hmax
  rw [items_keys]
  exact hsort

/-- **Every selected entry is put out exactly once, unless it is a last one left out.** -/
theorem rows_items_complete_iff (hmax : 1 < max) (hsort : (es.map key).Pairwise (· < ·)) :
    (∀ i e v, es[i]? = some e → sel i e = some v →
      (rows max alone (items key sel 0 es)).countP (·.covers (key e)) = 1) ↔
      ¬LastLost max alone (items key sel 0 es) := by
  have hsort' : ((items key sel 0 es).map Prod.fst).Pairwise (· < ·) := by
    rw [items_keys]
    exact hsort
  rw [← rows_complete_iff alone hmax hsort']
  constructor
  · intro hone k v hmem
    obtain ⟨i, e, he, rfl, hv⟩ := mem_items.mp hmem
    rw [Nat.zero_add] at hv
    exact hone i e v he hv
  · intro hone i e v he hv
    exact hone _ v (mem_items.mpr ⟨i, e, he, rfl, by rw [Nat.zero_add]; exact hv⟩)

end Loop

end GreeIntense.Lib.Rows
