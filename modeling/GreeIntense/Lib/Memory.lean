import Mathlib.Data.Set.Function
import Mathlib.Order.Interval.Set.Basic
import Mathlib.Data.List.Basic
import Mathlib.Tactic.Common

/-!
# Byte memories

A memory is the byte at every address.  This file has what programs on byte buffers need of it:

* the two bytes of a 16-bit word, high first (`hi`, `lo`), and their recombination;
* words in little-endian order (`load16`, `store16`: variables) and in big-endian order
  (`loadBE`, `storeBE`: frames);
* `Holds m p bs`: the bytes `bs` stand in `m` from the address `p` on, with the rules for lists
  that are put together;
* `storeRun f n`: the stores `f 0`, …, `f (n - 1)`, and the byte that the last one of them leaves
  at an address (`storeRun_eq_iff`).

Frame conditions are `Set.EqOn` off the bytes written.
-/

namespace GreeIntense.Lib.Memory

/-- A byte memory: the byte at every address. -/
abbrev Mem := ℕ → BitVec 8

/-! ### The bytes of a word -/

def hi (w : BitVec 16) : BitVec 8 := w.extractLsb' 8 8

def lo (w : BitVec 16) : BitVec 8 := w.extractLsb' 0 8

@[simp] theorem hi_append (a b : BitVec 8) : hi (a ++ b) = a := by
  unfold hi
  ext i hi
  rw [BitVec.getElem_extractLsb', BitVec.getLsbD_append, if_neg (by omega), Nat.add_sub_cancel_left,
    BitVec.getLsbD_eq_getElem]

@[simp] theorem lo_append (a b : BitVec 8) : lo (a ++ b) = b := by
  unfold lo
  ext i hi
  rw [BitVec.getElem_extractLsb', BitVec.getLsbD_append, if_pos (by omega), Nat.zero_add,
    BitVec.getLsbD_eq_getElem]

@[simp] theorem append_hi_lo (w : BitVec 16) : hi w ++ lo w = w := by
  unfold hi lo
  ext i hi
  rw [BitVec.getElem_append]
  split
  · rw [BitVec.getElem_extractLsb', Nat.zero_add, BitVec.getLsbD_eq_getElem]
  · rw [BitVec.getElem_extractLsb', Nat.add_sub_cancel' (by omega), BitVec.getLsbD_eq_getElem]

theorem toNat_append (a b : BitVec 8) : (a ++ b).toNat = a.toNat * 256 + b.toNat := by
  rw [BitVec.toNat_append, Nat.shiftLeft_eq, Nat.mul_comm, ← Nat.two_pow_add_eq_or_of_lt b.isLt]

/-! ### Addresses -/

theorem add_sub_toNat (a x : BitVec 16) : a + BitVec.ofNat 16 (x - a).toNat = x := by
  rw [BitVec.ofNat_toNat, BitVec.setWidth_eq, BitVec.add_comm, BitVec.sub_add_cancel]

theorem sub_toNat_of_lt {a x n : BitVec 16} {k : ℕ} (hx : x = a + BitVec.ofNat 16 k) (hk : k < n.toNat) :
    (x - a).toNat = k := by
  have := n.isLt
  rw [hx, BitVec.add_comm, BitVec.add_sub_cancel, BitVec.toNat_ofNat, Nat.mod_eq_of_lt (by omega)]

theorem toNat_add_one {k : ℕ} {x y : BitVec k} (h : x.toNat < y.toNat) : (x + 1).toNat = x.toNat + 1 := by
  have := y.isLt
  have hone : (1 : BitVec k).toNat = 1 % 2 ^ k := BitVec.toNat_ofNat 1 k
  rw [BitVec.toNat_add, hone, Nat.add_mod_mod]
  exact Nat.mod_eq_of_lt (by omega)

/-! ### Words in memory -/

/-- The little-endian word at `p`. -/
def load16 (m : Mem) (p : ℕ) : BitVec 16 := m (p + 1) ++ m p

def store8 (m : Mem) (p : ℕ) (b : BitVec 8) : Mem := Function.update m p b

/-- Store a word in little-endian order. -/
def store16 (m : Mem) (p : ℕ) (w : BitVec 16) : Mem := store8 (store8 m p (lo w)) (p + 1) (hi w)

/-- The big-endian word at `p`. -/
def loadBE (m : Mem) (p : ℕ) : BitVec 16 := m p ++ m (p + 1)

/-- Store a word in big-endian order. -/
def storeBE (m : Mem) (p : ℕ) (w : BitVec 16) : Mem := store8 (store8 m p (hi w)) (p + 1) (lo w)

section Stores

variable (m : Mem) (p q : ℕ) (b : BitVec 8) (w : BitVec 16)

@[simp] theorem store8_same : store8 m p b p = b := by simp [store8]

theorem store8_ne (h : q ≠ p) : store8 m p b q = m q := by simp [store8, h]

@[simp] theorem store8_self : store8 m p (m p) = m := by simp [store8]

@[simp] theorem store16_fst : store16 m p w p = lo w := by simp [store16, store8]

@[simp] theorem store16_snd : store16 m p w (p + 1) = hi w := by simp [store16]

theorem store16_ne (h : q ≠ p) (h' : q ≠ p + 1) : store16 m p w q = m q := by
  simp [store16, store8, h, h']

@[simp] theorem load16_store16 : load16 (store16 m p w) p = w := by simp [load16]

@[simp] theorem store16_load16 : store16 m p (load16 m p) = m := by
  funext q
  by_cases h : q = p
  · subst h; simp [load16]
  · by_cases h' : q = p + 1
    · subst h'; simp [load16]
    · rw [store16_ne _ _ _ _ h h']

@[simp] theorem storeBE_fst : storeBE m p w p = hi w := by simp [storeBE, store8]

@[simp] theorem storeBE_snd : storeBE m p w (p + 1) = lo w := by simp [storeBE]

@[simp] theorem loadBE_storeBE : loadBE (storeBE m p w) p = w := by simp [loadBE]

end Stores

/-! ### Lists of bytes in memory -/

/-- The bytes `bs` stand in `m` from the address `p` on. -/
def Holds (m : Mem) (p : ℕ) (bs : List (BitVec 8)) : Prop :=
  ∀ i (h : i < bs.length), m (p + i) = bs[i]

instance (m : Mem) (p : ℕ) (bs : List (BitVec 8)) : Decidable (Holds m p bs) := by
  unfold Holds; infer_instance

/-- Store the bytes `bs` from the address `p` on. -/
def storeList (m : Mem) (p : ℕ) : List (BitVec 8) → Mem
  | [] => m
  | b :: bs => storeList (store8 m p b) (p + 1) bs

section Lists

variable {m m' : Mem} {p : ℕ} {b : BitVec 8} {bs cs : List (BitVec 8)}

@[simp] theorem holds_nil : Holds m p [] := fun i h => absurd h (by simp)

@[simp] theorem holds_cons : Holds m p (b :: bs) ↔ m p = b ∧ Holds m (p + 1) bs := by
  constructor
  · intro h
    refine ⟨h 0 (by simp), ?_⟩
    intro i hi
    rw [show p + 1 + i = p + (i + 1) by omega]
    exact h (i + 1) (by simpa using hi)
  · rintro ⟨h0, h⟩ i hi
    cases i with
    | zero => exact h0
    | succ i =>
      rw [show p + (i + 1) = p + 1 + i by omega]
      exact h i (by simpa using hi)

theorem holds_append : Holds m p (bs ++ cs) ↔ Holds m p bs ∧ Holds m (p + bs.length) cs := by
  induction bs generalizing p with
  | nil => simp
  | cons b bs ih =>
    simp only [List.cons_append, holds_cons, ih, List.length_cons, and_assoc]
    rw [show p + 1 + bs.length = p + (bs.length + 1) by omega]

theorem Holds.congr (h : Holds m p bs) (e : ∀ i < bs.length, m' (p + i) = m (p + i)) :
    Holds m' p bs := fun i hi => by rw [e i hi, h i hi]

theorem storeList_off {q : ℕ} (h : q < p ∨ p + bs.length ≤ q) : storeList m p bs q = m q := by
  induction bs generalizing m p with
  | nil => rfl
  | cons b bs ih =>
    simp only [List.length_cons] at h
    rw [storeList, ih (by omega), store8_ne _ _ _ _ (by omega)]

theorem holds_storeList : Holds (storeList m p bs) p bs := by
  induction bs generalizing m p with
  | nil => simp
  | cons b bs ih =>
    rw [holds_cons, storeList]
    exact ⟨by rw [storeList_off (by omega)]; simp, ih⟩

theorem Holds.snoc (h : Holds m p bs) (b : BitVec 8) : Holds (store8 m (p + bs.length) b) p (bs ++ [b]) := by
  rw [holds_append]
  constructor
  · apply h.congr
    intro i hi
    exact store8_ne _ _ _ _ (by omega)
  · exact holds_cons.mpr ⟨store8_same _ _ _, holds_nil⟩

theorem Holds.map_range (h : Holds m 0 bs) : (List.range bs.length).map m = bs := by
  apply List.ext_getElem
  · simp
  · intro i _ hi
    rw [List.getElem_map, List.getElem_range, ← h i hi, Nat.zero_add]

end Lists

/-! ### Lists of words in big-endian order -/

/-- The bytes of the words `ws`, each high byte first. -/
def beBytes (ws : List (BitVec 16)) : List (BitVec 8) := ws.flatMap fun w => [hi w, lo w]

section Words

variable {m : Mem} {p : ℕ} {w : BitVec 16} {ws : List (BitVec 16)}

@[simp] theorem beBytes_nil : beBytes [] = [] := rfl

@[simp] theorem beBytes_cons : beBytes (w :: ws) = hi w :: lo w :: beBytes ws := rfl

@[simp] theorem beBytes_length : (beBytes ws).length = 2 * ws.length := by
  induction ws with
  | nil => rfl
  | cons w ws ih => simp only [beBytes_cons, List.length_cons, ih]; omega

theorem holds_beBytes_cons :
    Holds m p (beBytes (w :: ws)) ↔ loadBE m p = w ∧ Holds m (p + 2) (beBytes ws) := by
  simp only [beBytes_cons, holds_cons, ← and_assoc]
  refine and_congr_left fun _ => ⟨fun h => ?_, fun h => ?_⟩
  · rw [loadBE, h.1, h.2, append_hi_lo]
  · subst h
    simp [loadBE]

/-- **A list of words is read back word by word.** -/
theorem holds_beBytes_iff : Holds m p (beBytes ws) ↔ ∀ i (h : i < ws.length), loadBE m (p + 2 * i) = ws[i] := by
  induction ws generalizing p with
  | nil => simp
  | cons w ws ih =>
    rw [holds_beBytes_cons, ih]
    constructor
    · rintro ⟨h0, h⟩ i hi
      cases i with
      | zero => exact h0
      | succ i =>
        rw [show p + 2 * (i + 1) = p + 2 + 2 * i by omega]
        exact h i (by simpa using hi)
    · intro h
      refine ⟨h 0 (by simp), ?_⟩
      intro i hi
      rw [show p + 2 + 2 * i = p + 2 * (i + 1) by omega]
      exact h (i + 1) (by simpa using hi)

/-- The `n` big-endian words that stand in `m` from `p` on. -/
def wordsAt (m : Mem) (p n : ℕ) : List (BitVec 16) := (List.range n).map fun i => loadBE m (p + 2 * i)

@[simp] theorem wordsAt_length (m : Mem) (p n : ℕ) : (wordsAt m p n).length = n := by simp [wordsAt]

theorem holds_wordsAt (m : Mem) (p n : ℕ) : Holds m p (beBytes (wordsAt m p n)) :=
  holds_beBytes_iff.mpr fun i _ => by simp [wordsAt]

theorem wordsAt_eq (h : Holds m p (beBytes ws)) : wordsAt m p ws.length = ws := by
  refine List.ext_getElem (by simp) ?_
  intro i _ hi
  rw [← holds_beBytes_iff.mp h i hi]
  simp [wordsAt]

end Words

/-! ### Runs of bytes -/

/-- The `n` bytes from `p` on. -/
def loadAt (m : Mem) (p n : ℕ) : Fin n → BitVec 8 := fun i => m (p + i)

/-- Store the bytes `v` from the address `p` on. -/
def storeAt {n : ℕ} (m : Mem) (p : ℕ) (v : Fin n → BitVec 8) : Mem :=
  fun q => if h : p ≤ q ∧ q - p < n then v ⟨q - p, h.2⟩ else m q

section Runs

variable {n p q : ℕ} {m m' : Mem}

theorem loadAt_congr_iff : loadAt m p n = loadAt m' p n ↔ ∀ q, p ≤ q → q < p + n → m q = m' q := by
  constructor
  · intro h q hp hq
    have hi := congrFun h ⟨q - p, by omega⟩
    rwa [loadAt, loadAt, Nat.add_sub_of_le hp] at hi
  · intro h
    funext i
    exact h (p + i) (by omega) (by omega)

theorem storeAt_off (v : Fin n → BitVec 8) (h : q < p ∨ p + n ≤ q) : storeAt m p v q = m q :=
  dif_neg (by omega)

theorem storeAt_loadAt (h : p ≤ q) (h' : q < p + n) : storeAt m p (loadAt m' p n) q = m' q := by
  rw [storeAt, dif_pos ⟨h, by omega⟩, loadAt, Nat.add_sub_of_le h]

end Runs

/-! ### Runs of stores -/

/-- The stores `f 0`, `f 1`, …, `n` of them. -/
def storeRun (f : ℕ → Mem → Mem) : ℕ → Mem → Mem
  | 0, m => m
  | n + 1, m => f n (storeRun f n m)

/-- The store sets the byte at `q` to `b`. -/
def Writes (f : Mem → Mem) (q : ℕ) (b : BitVec 8) : Prop := ∀ m, f m q = b

/-- The store leaves the byte at `q` as it is. -/
def Leaves (f : Mem → Mem) (q : ℕ) : Prop := ∀ m, f m q = m q

section Runs

variable {f : ℕ → Mem → Mem} {m : Mem} {p q n : ℕ} {b : BitVec 8}

theorem storeRun_cons : storeRun f (n + 1) m = storeRun (fun k => f (k + 1)) n (f 0 m) := by
  induction n with
  | zero => rfl
  | succ n ih => rw [storeRun, ih, storeRun]

theorem store8_stores (p q : ℕ) (b : BitVec 8) :
    Leaves (fun m => store8 m p b) q ∨ ∃ c, Writes (fun m => store8 m p b) q c := by
  by_cases h : q = p
  · subst h
    exact Or.inr ⟨b, fun m => store8_same m q b⟩
  · exact Or.inl fun m => store8_ne m p q b h

theorem store16_stores (p q : ℕ) (w : BitVec 16) :
    Leaves (fun m => store16 m p w) q ∨ ∃ c, Writes (fun m => store16 m p w) q c := by
  by_cases h : q = p
  · subst h
    exact Or.inr ⟨lo w, fun m => store16_fst m q w⟩
  · by_cases h' : q = p + 1
    · subst h'
      exact Or.inr ⟨hi w, fun m => store16_snd m p w⟩
    · exact Or.inl fun m => store16_ne m p q w h h'

theorem Writes.not_leaves {g : Mem → Mem} (hw : Writes g q b) : ¬Leaves g q := by
  intro hl
  have h0 := (hl fun _ => b + 1).symm.trans (hw _)
  exact absurd h0 (by simp)

/-- **The last store that writes an address decides**; where none does, the byte is the one before. -/
theorem storeRun_eq_iff (h : ∀ k < n, Leaves (f k) q ∨ ∃ c, Writes (f k) q c) :
    storeRun f n m q = b ↔
      (∃ j < n, Writes (f j) q b ∧ ∀ k < n, j < k → Leaves (f k) q) ∨ (∀ k < n, Leaves (f k) q) ∧ m q = b := by
  induction n with
  | zero => simp [storeRun]
  | succ n ih =>
    rw [storeRun]
    rcases h n (by omega) with hl | ⟨c, hw⟩
    · -- the last store leaves the byte
      rw [hl, ih fun k hk => h k (by omega)]
      constructor
      · rintro (⟨j, hj, hjw, hafter⟩ | ⟨hall, hm⟩)
        · refine Or.inl ⟨j, by omega, hjw, fun k hk hjk => ?_⟩
          rcases Nat.lt_succ_iff_lt_or_eq.mp hk with hlt | rfl
          · exact hafter k hlt hjk
          · exact hl
        · refine Or.inr ⟨fun k hk => ?_, hm⟩
          rcases Nat.lt_succ_iff_lt_or_eq.mp hk with hlt | rfl
          · exact hall k hlt
          · exact hl
      · rintro (⟨j, hj, hjw, hafter⟩ | ⟨hall, hm⟩)
        · rcases Nat.lt_succ_iff_lt_or_eq.mp hj with hlt | rfl
          · exact Or.inl ⟨j, hlt, hjw, fun k hk hjk => hafter k (by omega) hjk⟩
          · exact absurd hl hjw.not_leaves
        · exact Or.inr ⟨fun k hk => hall k (by omega), hm⟩
    · -- the last store decides it
      rw [hw]
      constructor
      · rintro rfl
        exact Or.inl ⟨n, by omega, hw, fun k hk hnk => by omega⟩
      · rintro (⟨j, hj, hjw, hafter⟩ | ⟨hall, hm⟩)
        · rcases Nat.lt_succ_iff_lt_or_eq.mp hj with hlt | rfl
          · exact absurd (hafter n (by omega) hlt) hw.not_leaves
          · exact (hw m).symm.trans (hjw m)
        · exact absurd (hall n (by omega)) hw.not_leaves

theorem storeRun_leaves (h : ∀ k < n, Leaves (f k) q) : storeRun f n m q = m q :=
  (storeRun_eq_iff fun k hk => Or.inl (h k hk)).mpr (Or.inr ⟨h, rfl⟩)

/-- Where one store alone may write an address, it decides. -/
theorem storeRun_at {j : ℕ} (hj : j < n) (hstores : Leaves (f j) q ∨ ∃ c, Writes (f j) q c)
    (h : ∀ k < n, k ≠ j → Leaves (f k) q) : storeRun f n m q = f j m q := by
  have hall : ∀ k < n, Leaves (f k) q ∨ ∃ c, Writes (f k) q c := by
    intro k hk
    by_cases hkj : k = j
    · rw [hkj]
      exact hstores
    · exact Or.inl (h k hk hkj)
  rw [storeRun_eq_iff hall]
  rcases hstores with hl | ⟨c, hw⟩
  · refine Or.inr ⟨fun k hk => ?_, (hl m).symm⟩
    by_cases hkj : k = j
    · rw [hkj]
      exact hl
    · exact h k hk hkj
  · exact Or.inl ⟨j, hj, fun m' => (hw m').trans (hw m).symm, fun k hk hjk => h k hk (by omega)⟩

variable {α : Type} {g : α → Mem → Mem} {l : List α}

/-! Stores one after the other over a list. -/

theorem foldl_leaves (h : ∀ x ∈ l, Leaves (g x) q) : Leaves (fun m => l.foldl (fun m x => g x m) m) q := by
  intro m
  induction l generalizing m with
  | nil => rfl
  | cons x l ih =>
    exact (ih (fun y hy => h y (List.mem_cons_of_mem x hy)) (g x m)).trans (h x List.mem_cons_self m)

/-- Where all that write an address write the same byte, and one does, that byte stands there. -/
theorem foldl_writes (h : ∀ x ∈ l, Leaves (g x) q ∨ Writes (g x) q b) (hw : ∃ x ∈ l, Writes (g x) q b) :
    Writes (fun m => l.foldl (fun m x => g x m) m) q b := by
  intro m
  induction l generalizing m with
  | nil =>
    obtain ⟨x, hx, -⟩ := hw
    cases hx
  | cons x l ih =>
    have hrest (y : α) (hy : y ∈ l) := h y (List.mem_cons_of_mem x hy)
    by_cases hlater : ∃ y ∈ l, Writes (g y) q b
    · exact ih hrest hlater (g x m)
    · have hl : ∀ y ∈ l, Leaves (g y) q := fun y hy =>
        (hrest y hy).resolve_right fun hwy => hlater ⟨y, hy, hwy⟩
      obtain ⟨y, hy, hwy⟩ := hw
      rcases List.mem_cons.mp hy with rfl | hy
      · exact (foldl_leaves hl (g y m)).trans (hwy m)
      · exact absurd ⟨y, hy, hwy⟩ hlater

end Runs

end GreeIntense.Lib.Memory
