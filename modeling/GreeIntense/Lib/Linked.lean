import Mathlib.Data.List.Nodup
import Mathlib.Logic.Function.Basic
import Mathlib.Logic.Relation
import Mathlib.Tactic.Common

/-!
# Linked lists whose head knows the last node

A list in memory is a pointer to its head; every node has a pointer to the next one, and the head one to the last one,
through which a node is appended (`LinkedList.append`).

* `Chain next p as`: the nodes from `p` on along `next` are `as`, and then comes a null pointer; they are distinct
  (`Chain.nodup`), and no node is behind itself (`Chain.acyclic`);
* `Chain.forEach`, `Chain.search`: a loop along the pointers passes the nodes of the chain in their order and ends;
* `LinkedList.IsList l as`: `as` are the nodes of the list, and the head knows the last one;
* `IsList.sound`: what follows for the loops along the list;
* `IsList.append`: a node that is not in the list is appended, and no null pointer is followed.
-/

namespace GreeIntense.Lib.Linked

variable {α δ σ : Type*}

/-! ### Chains -/

/-- The nodes from `p` on are `as`. -/
def Chain (next : α → Option α) : Option α → List α → Prop
  | p, [] => p = none
  | p, a :: as => p = some a ∧ Chain next (next a) as

section Chain

variable {next next' : α → Option α} {p : Option α} {a b : α} {as bs : List α}

/-- The nodes are determined by the pointers. -/
theorem Chain.unique (h : Chain next p as) (h' : Chain next p bs) : as = bs := by
  induction as generalizing p bs with
  | nil =>
    cases bs with
    | nil => rfl
    | cons b bs => exact absurd (h.symm.trans h'.1) (by simp)
  | cons a as ih =>
    cases bs with
    | nil => exact absurd (h'.symm.trans h.1) (by simp)
    | cons b bs =>
      obtain rfl : a = b := Option.some.inj (h.1.symm.trans h'.1)
      rw [ih h.2 h'.2]

theorem Chain.behind (h : Chain next (some a) as) (hab : Relation.TransGen (fun a b => next a = some b) a b) :
    ∃ bs, Chain next (some b) bs ∧ bs.length < as.length := by
  have hstep {a b : α} {as : List α} (h : Chain next (some a) as) (hn : next a = some b) :
      ∃ bs, Chain next (some b) bs ∧ bs.length < as.length := by
    cases as with
    | nil => cases h
    | cons c cs =>
      obtain rfl : a = c := Option.some.inj h.1
      exact ⟨cs, hn ▸ h.2, by simp⟩
  induction hab with
  | single hn => exact hstep h hn
  | tail _ hn ih =>
    obtain ⟨cs, hc, hlt⟩ := ih
    obtain ⟨bs, hb, hlt'⟩ := hstep hc hn
    exact ⟨bs, hb, Nat.lt_trans hlt' hlt⟩

theorem Chain.from_mem (h : Chain next p as) (ha : a ∈ as) : ∃ bs, Chain next (some a) bs := by
  induction as generalizing p with
  | nil => cases ha
  | cons b bs ih =>
    rcases List.mem_cons.mp ha with rfl | ha
    · exact ⟨a :: bs, rfl, h.2⟩
    · exact ih h.2 ha

/-- **A chain has no cycle.** -/
theorem Chain.acyclic (h : Chain next p as) (ha : a ∈ as) : ¬Relation.TransGen (fun a b => next a = some b) a a := by
  intro hcyc
  obtain ⟨bs, hb⟩ := h.from_mem ha
  obtain ⟨cs, hc, hlt⟩ := hb.behind hcyc
  rw [hb.unique hc] at hlt
  exact Nat.lt_irrefl _ hlt

theorem Chain.reaches (h : Chain next (next a) as) (hb : b ∈ as) :
    Relation.TransGen (fun a b => next a = some b) a b := by
  induction as generalizing a with
  | nil => cases hb
  | cons c cs ih =>
    rcases List.mem_cons.mp hb with rfl | hb
    · exact .single h.1
    · exact .head h.1 (ih h.2 hb)

/-- **Its nodes are distinct.** -/
theorem Chain.nodup (h : Chain next p as) : as.Nodup := by
  induction as generalizing p with
  | nil => exact List.nodup_nil
  | cons a as ih =>
    exact List.nodup_cons.mpr ⟨fun ha => h.acyclic List.mem_cons_self (h.2.reaches ha), ih h.2⟩

theorem Chain.snoc (h : Chain next p as) (hlast : as.getLast? = some b) (hb : next' b = some a) (ha : next' a = none)
    (e : ∀ c ∈ as, c ≠ b → next' c = next c) : Chain next' p (as ++ [a]) := by
  induction as generalizing p with
  | nil => cases hlast
  | cons c cs ih =>
    refine ⟨h.1, ?_⟩
    cases cs with
    | nil =>
      obtain rfl : c = b := by simpa using hlast
      exact ⟨hb, ha⟩
    | cons d ds =>
      have hlast' : (d :: ds).getLast? = some b := by simpa using hlast
      have hmem : b ∈ d :: ds := List.mem_of_getLast? hlast'
      have hne : c ≠ b := by
        rintro rfl
        exact (List.nodup_cons.mp h.nodup).1 hmem
      rw [e c List.mem_cons_self hne]
      exact ih h.2 hlast' fun x hx => e x (List.mem_cons_of_mem c hx)

end Chain

/-! ### Loops -/

/-- `for (a = p; a != NULL; a = next a)`, with the pointers as they are when they are read, for `n` passes at most. -/
def forEach (next : σ → α → Option α) (body : α → σ → σ) : ℕ → Option α → σ → Option σ
  | _, none, s => some s
  | 0, some _, _ => none
  | n + 1, some a, s => forEach next body n (next (body a s) a) (body a s)

/-- The loop that returns at the first node with the property, and the null pointer behind the last one. -/
def search (next : α → Option α) (P : α → Bool) : ℕ → Option α → Option (Option α)
  | _, none => some none
  | 0, some _ => none
  | n + 1, some a => if P a then some (some a) else search next P n (next a)

section Loops

variable {p : Option α} {as : List α} {n : ℕ}

/-- **A loop passes every node once, in their order, and ends**, where its body leaves the pointers alone. -/
theorem Chain.forEach {next : σ → α → Option α} {body : α → σ → σ} {s : σ} (h : Chain (next s) p as)
    (hbody : ∀ a s, next (body a s) = next s) (hn : as.length ≤ n) :
    forEach next body n p s = some (as.foldl (fun s a => body a s) s) := by
  induction as generalizing p s n with
  | nil =>
    obtain rfl : p = none := h
    cases n <;> rfl
  | cons a as ih =>
    obtain ⟨rfl, hrest⟩ := h
    cases n with
    | zero => exact absurd hn (by simp)
    | succ n =>
      rw [Linked.forEach, List.foldl_cons]
      rw [← hbody a s] at hrest
      exact ih hrest (Nat.le_of_succ_le_succ hn)

/-- **A search ends** with the first node that has the property. -/
theorem Chain.search {next : α → Option α} {P : α → Bool} (h : Chain next p as) (hn : as.length ≤ n) :
    search next P n p = some (as.find? P) := by
  induction as generalizing p n with
  | nil =>
    obtain rfl : p = none := h
    cases n <;> rfl
  | cons a as ih =>
    obtain ⟨rfl, hrest⟩ := h
    cases n with
    | zero => exact absurd hn (by simp)
    | succ n =>
      rw [Linked.search, List.find?_cons]
      cases hP : P a with
      | true => rfl
      | false => exact ih hrest (Nat.le_of_succ_le_succ hn)

end Loops

/-! ### Lists in memory -/

/-- A node: what it holds, and its pointers. -/
structure Node (α δ : Type*) where
  data : δ
  pNext : Option α
  pLast : Option α

/-- A pointer to the head, and the node at every address. -/
structure LinkedList (α δ : Type*) where
  head : Option α
  mem : α → Node α δ

namespace LinkedList

def next (l : LinkedList α δ) (a : α) : Option α := (l.mem a).pNext

/-- The pointers to the last node; only that of the head is used. -/
def last (l : LinkedList α δ) (a : α) : Option α := (l.mem a).pLast

def data (l : LinkedList α δ) (a : α) : δ := (l.mem a).data

/-- The nodes of the list are `as`, and its head knows the last one. -/
structure IsList (l : LinkedList α δ) (as : List α) : Prop where
  chain : Chain l.next l.head as
  last : ∀ h, l.head = some h → l.last h = as.getLast?

/-- What there is to say of a list of the nodes `as`: they are distinct, none is behind itself, and every loop along the
list takes them in their order, once each, and ends. -/
structure Sound (l : LinkedList α δ) (as : List α) : Prop where
  isList : l.IsList as
  nodup : as.Nodup
  acyclic : ∀ a ∈ as, ¬Relation.TransGen (fun a b => l.next a = some b) a a
  loops : ∀ (σ : Type) (body : α → σ → σ) (s : σ) (n : ℕ), as.length ≤ n →
    forEach (fun _ => l.next) body n l.head s = some (as.foldl (fun s a => body a s) s)

theorem IsList.sound {l : LinkedList α δ} {as : List α} (h : l.IsList as) : l.Sound as where
  isList := h
  nodup := h.chain.nodup
  acyclic _ ha := h.chain.acyclic ha
  loops _ _ _ _ hn := Chain.forEach h.chain (fun _ _ => rfl) hn

theorem isList_nil (mem : α → Node α δ) : (⟨none, mem⟩ : LinkedList α δ).IsList [] :=
  ⟨rfl, fun _ h => by cases h⟩

variable [DecidableEq α] (l : LinkedList α δ) (a : α)

def set (f : Node α δ → Node α δ) : LinkedList α δ := { l with mem := Function.update l.mem a (f (l.mem a)) }

def setNext (pNext : Option α) : LinkedList α δ := l.set a fun b => { b with pNext }

def setLast (pLast : Option α) : LinkedList α δ := l.set a fun b => { b with pLast }

def setData (data : δ) : LinkedList α δ := l.set a fun b => { b with data }

/-- Append the node `a`, or `none` where a null pointer is followed. -/
def append : Option (LinkedList α δ) :=
  let l := l.setNext a none
  match l.head with
  | none => some (({ l with head := some a } : LinkedList α δ).setLast a (some a))
  | some h => (l.last h).map fun t => (l.setNext t (some a)).setLast h (some a)

/-! ### The fields after a store -/

section Stores

variable {l a} {p : Option α} {d : δ} {b : α}

theorem set_mem_ne {f : Node α δ → Node α δ} (h : b ≠ a) : (l.set a f).mem b = l.mem b :=
  Function.update_of_ne h _ _

theorem map_set_self {β : Type*} {f : Node α δ → Node α δ} {g : Node α δ → β} {v : β} (h : g (f (l.mem a)) = v) :
    (fun b => g ((l.set a f).mem b)) = Function.update (fun b => g (l.mem b)) a v := by
  funext b
  by_cases hb : b = a
  · subst hb
    rw [Function.update_self]
    exact (congrArg g (Function.update_self b _ l.mem)).trans h
  · rw [Function.update_of_ne hb, set_mem_ne hb]

theorem map_set_other {β : Type*} {f : Node α δ → Node α δ} {g : Node α δ → β} (h : ∀ b, g (f b) = g b) :
    (fun b => g ((l.set a f).mem b)) = fun b => g (l.mem b) := by
  rw [map_set_self (h _), Function.update_eq_self]

@[simp] theorem setNext_next : (l.setNext a p).next = Function.update l.next a p := map_set_self rfl
@[simp] theorem setNext_last : (l.setNext a p).last = l.last := map_set_other fun _ => rfl
@[simp] theorem setNext_data : (l.setNext a p).data = l.data := map_set_other fun _ => rfl
@[simp] theorem setLast_next : (l.setLast a p).next = l.next := map_set_other fun _ => rfl
@[simp] theorem setLast_last : (l.setLast a p).last = Function.update l.last a p := map_set_self rfl
@[simp] theorem setLast_data : (l.setLast a p).data = l.data := map_set_other fun _ => rfl
@[simp] theorem setData_next : (l.setData a d).next = l.next := map_set_other fun _ => rfl
@[simp] theorem setData_last : (l.setData a d).last = l.last := map_set_other fun _ => rfl
@[simp] theorem setData_data : (l.setData a d).data = Function.update l.data a d := map_set_self rfl

end Stores

/-! ### A node is appended -/

/-- What the nodes hold does not matter to the list. -/
theorem IsList.setData {l : LinkedList α δ} {as : List α} (h : l.IsList as) (a : α) (d : δ) :
    (l.setData a d).IsList as := by
  refine ⟨?_, fun b hb => ?_⟩
  · rw [setData_next]
    exact h.chain
  · rw [setData_last]
    exact h.last b hb

/-- The nodes of `as` and the new one may have changed, and what they hold has not. -/
structure Appended (l l' : LinkedList α δ) (as : List α) (a : α) : Prop where
  isList : l'.IsList (as ++ [a])
  data : l'.data = l.data
  others : ∀ b, b ∉ as → b ≠ a → l'.mem b = l.mem b

/-- **A node that is not in the list is appended**, and no null pointer is followed. -/
theorem IsList.append {l : LinkedList α δ} {as : List α} {a : α} (h : l.IsList as) (ha : a ∉ as) :
    ∃ l', l.append a = some l' ∧ Appended l l' as a := by
  obtain ⟨hchain, hlast⟩ := h
  cases as with
  | nil =>
    -- the node becomes the head, and is its own last one
    have hhead : l.head = none := hchain
    refine ⟨({ l.setNext a none with head := some a } : LinkedList α δ).setLast a (some a), ?_, ⟨⟨rfl, ?_⟩, ?_⟩, ?_, ?_⟩
    · rw [LinkedList.append]
      simp only [setNext, set, hhead]
    · rw [setLast_next]
      show (l.setNext a none).next a = none
      rw [setNext_next, Function.update_self]
    · intro b hb
      obtain rfl : a = b := Option.some.inj hb
      rw [setLast_last, Function.update_self]
      rfl
    · rw [setLast_data]
      exact setNext_data
    · intro b _ hb
      have hfirst : (l.setNext a none).mem b = l.mem b := set_mem_ne hb
      exact (set_mem_ne hb).trans hfirst
  | cons c cs =>
    have hhead : l.head = some c := hchain.1
    obtain ⟨t, ht⟩ : ∃ t, (c :: cs).getLast? = some t := ⟨_, List.getLast?_eq_some_getLast (List.cons_ne_nil c cs)⟩
    have htmem : t ∈ c :: cs := List.mem_of_getLast? ht
    have hta : a ≠ t := fun he => ha (he ▸ htmem)
    -- the head knows the last node, also after the new one's pointer is cleared
    have hlast' : (l.setNext a none).last c = some t := by rw [setNext_last, hlast c hhead, ht]
    refine ⟨((l.setNext a none).setNext t (some a)).setLast c (some a), ?_, ⟨?_, ?_⟩, ?_, ?_⟩
    · rw [LinkedList.append]
      show (match l.head with | none => _ | some h => _) = _
      rw [hhead]
      simp only [hlast', Option.map_some]
    · rw [setLast_next, setNext_next, setNext_next]
      refine hchain.snoc ht (Function.update_self _ _ _) ?_ fun d hd hdt => ?_
      · rw [Function.update_of_ne hta, Function.update_self]
      · have hda : d ≠ a := fun he => ha (he ▸ hd)
        rw [Function.update_of_ne hdt, Function.update_of_ne hda]
    · intro b hb
      obtain rfl : c = b := Option.some.inj (hhead.symm.trans hb)
      rw [setLast_last, Function.update_self, List.getLast?_append_of_ne_nil _ (List.cons_ne_nil a [])]
      rfl
    · rw [setLast_data, setNext_data, setNext_data]
    · intro b hb hba
      have hbc : b ≠ c := fun he => hb (he ▸ List.mem_cons_self)
      have hbt : b ≠ t := fun he => hb (he ▸ htmem)
      exact (set_mem_ne hbc).trans ((set_mem_ne hbt).trans (set_mem_ne hba))

end LinkedList

end GreeIntense.Lib.Linked
