import Mathlib.Data.List.Sort

/-!
# Bubble sort

The sort as it is written in C, on a list: pass `n` compares the neighbours of all but the last `n` elements, and
moves the one with the greatest key to its end (`pass_last`).  So after `n` passes the last `n` elements are in
their places (`Settled`).

What is picked from the front of a sorted list has no greater key than what is left (`pick_rel`).
-/

namespace GreeIntense.Lib.BubbleSort

variable {α κ : Type*} [LinearOrder κ] (key : α → κ)

/-- A pass: the first `k` comparisons of neighbours. -/
def pass : ℕ → List α → List α
  | k + 1, a :: b :: list => if key a > key b then b :: pass k (a :: list) else a :: pass k (b :: list)
  | _, list => list

/-- The passes, each one comparison shorter than the last. -/
def sort (list : List α) : List α :=
  (List.range (list.length - 1)).foldl (fun list n => pass key (list.length - n - 1) list) list

/-! ### A pass -/

theorem pass_perm (k : ℕ) (list : List α) : (pass key k list).Perm list := by
  induction k generalizing list with
  | zero => rfl
  | succ k ih =>
    match list with
    | [] => rfl
    | [_] => rfl
    | a :: b :: list =>
      unfold pass
      split
      · exact ((ih (a :: list)).cons b).trans (List.Perm.swap a b list)
      · exact (ih (b :: list)).cons a

theorem pass_append {k : ℕ} {front : List α} (h : k < front.length) (back : List α) :
    pass key k (front ++ back) = pass key k front ++ back := by
  induction k generalizing front with
  | zero => rfl
  | succ k ih =>
    match front with
    | [] => exact absurd h (Nat.not_lt_zero _)
    | [_] => exact absurd (Nat.lt_of_succ_lt_succ h) (Nat.not_lt_zero _)
    | a :: b :: front =>
      have hk : k < (b :: front).length := Nat.lt_of_succ_lt_succ h
      simp only [List.cons_append, pass]
      split
      · exact congrArg (b :: ·) (@ih (a :: front) hk)
      · exact congrArg (a :: ·) (@ih (b :: front) hk)

/-- A pass over the whole list ends with a greatest element. -/
theorem pass_last (a : α) (list : List α) :
    ∃ init m, pass key list.length (a :: list) = init ++ [m] ∧ ∀ x ∈ a :: list, key x ≤ key m := by
  induction list generalizing a with
  | nil => exact ⟨[], a, rfl, by simp⟩
  | cons b list ih =>
    simp only [List.length_cons, pass]
    split
    · next hab =>
      obtain ⟨init, m, hpass, hle⟩ := ih a
      refine ⟨b :: init, m, congrArg (b :: ·) hpass, ?_⟩
      have ha := hle a List.mem_cons_self
      simp only [List.mem_cons, forall_eq_or_imp] at hle ⊢
      exact ⟨ha, (le_of_lt hab).trans ha, hle.2⟩
    · next hab =>
      obtain ⟨init, m, hpass, hle⟩ := ih b
      refine ⟨a :: init, m, congrArg (a :: ·) hpass, ?_⟩
      have hb := hle b List.mem_cons_self
      simp only [List.mem_cons, forall_eq_or_imp] at hle ⊢
      exact ⟨(not_lt.mp hab).trans hb, hb, hle.2⟩

/-! ### The sort -/

/-- The last `n` elements are sorted, and none before them has a greater key. -/
def Settled (n : ℕ) (list : List α) : Prop :=
  ∃ front back, list = front ++ back ∧ back.length = n ∧ back.Pairwise (fun a b => key a ≤ key b) ∧
    ∀ a ∈ front, ∀ b ∈ back, key a ≤ key b

variable {key}

theorem Settled.pass {n : ℕ} {list : List α} (h : Settled key n list) (hn : n < list.length) :
    Settled key (n + 1) (pass key (list.length - n - 1) list) := by
  obtain ⟨front, back, rfl, rfl, hsorted, hle⟩ := h
  have hfront : (front ++ back).length - back.length = front.length := by simp
  rw [hfront]
  match front with
  | [] => simp at hn
  | a :: front =>
    obtain ⟨init, m, hpass, hmax⟩ := pass_last key a front
    have hperm : (init ++ [m]).Perm (a :: front) := hpass ▸ pass_perm key front.length (a :: front)
    have hm : m ∈ a :: front := hperm.mem_iff.mp (by simp)
    refine ⟨init, m :: back, ?_, rfl, ?_, ?_⟩
    · have hk : (a :: front).length - 1 < (a :: front).length := Nat.lt_succ_self _
      rw [pass_append key hk, List.length_cons, Nat.add_sub_cancel, hpass, List.append_assoc]
      rfl
    · exact List.pairwise_cons.mpr ⟨hle m hm, hsorted⟩
    · intro x hx y hy
      have hx' : x ∈ a :: front := hperm.mem_iff.mp (List.mem_append_left _ hx)
      rcases List.mem_cons.mp hy with rfl | hy
      · exact hmax x hx'
      · exact hle x hx' y hy

variable (key)

theorem passes (list : List α) (n : ℕ) (hn : n < list.length) :
    ((List.range n).foldl (fun list n => pass key (list.length - n - 1) list) list).Perm list ∧
      Settled key n ((List.range n).foldl (fun list n => pass key (list.length - n - 1) list) list) := by
  induction n with
  | zero => exact ⟨List.Perm.refl list, list, [], by simp, rfl, List.Pairwise.nil, by simp⟩
  | succ n ih =>
    obtain ⟨hperm, hsettled⟩ := ih (Nat.lt_of_succ_lt hn)
    rw [List.range_succ, List.foldl_append]
    refine ⟨(pass_perm key _ _).trans hperm, hsettled.pass ?_⟩
    rw [hperm.length_eq]
    exact Nat.lt_of_succ_lt hn

theorem sort_perm (list : List α) : (sort key list).Perm list := by
  match list with
  | [] => rfl
  | a :: list => exact (passes key (a :: list) list.length (Nat.lt_succ_self _)).1

theorem sort_pairwise (list : List α) : (sort key list).Pairwise fun a b => key a ≤ key b := by
  match list with
  | [] => exact List.Pairwise.nil
  | a :: list =>
    obtain ⟨hperm, front, back, hsplit, hlen, hsorted, hle⟩ :=
      passes key (a :: list) list.length (Nat.lt_succ_self _)
    have hfront : front.length = 1 := by
      have h := hperm.length_eq
      rw [hsplit, List.length_append, hlen, List.length_cons] at h
      omega
    obtain ⟨b, rfl⟩ := List.length_eq_one_iff.mp hfront
    unfold sort
    rw [List.length_cons, Nat.add_sub_cancel, hsplit]
    exact List.pairwise_cons.mpr ⟨hle b List.mem_cons_self, hsorted⟩

/-! ### Picking from a sorted list -/

/-- The first `k` that have a property are related to those with the property that are left. -/
theorem pick_rel {r : α → α → Prop} {list : List α} (h : list.Pairwise r) (q : α → Bool) (k : ℕ) {x y : α}
    (hx : x ∈ (list.filter q).take k) (hy : y ∈ list) (hq : q y = true) (hn : y ∉ (list.filter q).take k) : r x y := by
  have hfilter : (list.filter q).Pairwise r := h.sublist List.filter_sublist
  rw [← List.take_append_drop k (list.filter q)] at hfilter
  have hy' : y ∈ (list.filter q).take k ++ (list.filter q).drop k := by
    rw [List.take_append_drop]
    exact List.mem_filter.mpr ⟨hy, hq⟩
  exact (List.pairwise_append.mp hfilter).2.2 x hx y ((List.mem_append.mp hy').resolve_left hn)

end GreeIntense.Lib.BubbleSort
