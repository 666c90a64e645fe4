import Mathlib.Data.List.Nodup

/-!
# Rows and the switch that finds them

A table is a list of rows, each with a key.  Beside it stands a `switch` on keys, the pairs of a key and a position of
the table.  Where the two agree (`Agrees`, which is decidable) the switch is the search for the row with the key:
`Agrees.row`, `Agrees.lookup_key` and `Agrees.lookup_eq_none`.
-/

namespace GreeIntense.Lib.Dictionary

variable {κ ρ : Type*} [DecidableEq κ]

/-- Each case leads to the row with its key, each row has a case, and no key stands twice. -/
structure Agrees (key : ρ → κ) (rows : List ρ) (cases : List (κ × ℕ)) : Prop where
  sound : ∀ c ∈ cases, rows[c.2]?.map key = some c.1
  complete : ∀ r ∈ rows, key r ∈ cases.map Prod.fst
  nodup : (rows.map key).Nodup

instance (key : ρ → κ) (rows : List ρ) (cases : List (κ × ℕ)) : Decidable (Agrees key rows cases) :=
  decidable_of_iff ((∀ c ∈ cases, rows[c.2]?.map key = some c.1) ∧ (∀ r ∈ rows, key r ∈ cases.map Prod.fst) ∧
    (rows.map key).Nodup) ⟨fun h => ⟨h.1, h.2.1, h.2.2⟩, fun h => ⟨h.sound, h.complete, h.nodup⟩⟩

variable {key : ρ → κ} {rows : List ρ} {cases : List (κ × ℕ)} {x : κ} {i : ℕ}

theorem Agrees.row (h : Agrees key rows cases) (hx : cases.lookup x = some i) : ∃ r, rows[i]? = some r ∧ key r = x := by
  obtain ⟨l, l', rfl, -⟩ := List.lookup_eq_some_iff.mp hx
  have hc := h.sound (x, i) (List.mem_append_right l (List.mem_cons_self ..))
  exact Option.map_eq_some_iff.mp hc

theorem Agrees.lookup_key (h : Agrees key rows cases) {r : ρ} (hr : rows[i]? = some r) :
    cases.lookup (key r) = some i := by
  have hmem : key r ∈ cases.map Prod.fst := h.complete r (List.mem_of_getElem? hr)
  cases hx : cases.lookup (key r) with
  | none =>
    obtain ⟨c, hc, hkey⟩ := List.mem_map.mp hmem
    have hne := List.lookup_eq_none_iff.mp hx c hc
    simp [hkey] at hne
  | some j =>
    obtain ⟨r', hr', hkey⟩ := h.row hx
    have hi : (rows.map key)[i]? = some (key r) := by rw [List.getElem?_map, hr, Option.map_some]
    have hj : (rows.map key)[j]? = some (key r) := by rw [List.getElem?_map, hr', Option.map_some, hkey]
    have hlt : i < (rows.map key).length := (List.getElem?_eq_some_iff.mp hi).1
    rw [(List.getElem?_inj hlt h.nodup).mp (hi.trans hj.symm)]

/-- The default is taken where no row has the key. -/
theorem Agrees.lookup_eq_none (h : Agrees key rows cases) : cases.lookup x = none ↔ ∀ r ∈ rows, key r ≠ x := by
  constructor
  · intro hx r hr hkey
    obtain ⟨i, hi⟩ := List.mem_iff_getElem?.mp hr
    rw [← hkey, h.lookup_key hi] at hx
    cases hx
  · intro hno
    cases hx : cases.lookup x with
    | none => rfl
    | some i =>
      obtain ⟨r, hr, hkey⟩ := h.row hx
      exact absurd hkey (hno r (List.mem_of_getElem? hr))

omit [DecidableEq κ] in
/-- A switch that counts the rows agrees with them where their keys ascend. -/
theorem Agrees.of_ascending (rank : κ → ℕ) (hcases : cases = (rows.map key).zipIdx)
    (hkeys : (rows.map fun r => rank (key r)).IsChain (· < ·)) : Agrees key rows cases := by
  subst hcases
  constructor
  · rintro ⟨x, i⟩ hc
    rw [← List.getElem?_map]
    exact List.mem_zipIdx_iff_getElem?.mp hc
  · intro r hr
    rw [List.zipIdx_map_fst]
    exact List.mem_map_of_mem hr
  · have hranks : ((rows.map key).map rank).Nodup := by
      rw [List.map_map]
      exact (List.isChain_iff_pairwise.mp hkeys).imp Nat.ne_of_lt
    exact hranks.of_map

end GreeIntense.Lib.Dictionary
