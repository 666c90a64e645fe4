import GreeIntense.Lib.Memory

/-!
# A frame on its way

The bytes of a frame are put on a wire one by one and taken from its other end in their order.  After `put` of them have
been put and `got` taken, the wire carries `inFlight frame put got`.
-/

namespace GreeIntense.Lib.Wire

open Lib.Memory

variable {α : Type*} {frame : List α} {put got : ℕ}

def inFlight (frame : List α) (put got : ℕ) : List α := (frame.take put).drop got

theorem inFlight_put (hp : put < frame.length) (hg : got ≤ put) :
    inFlight frame (put + 1) got = inFlight frame put got ++ [frame[put]] := by
  have hlen : (frame.take put).length = put := List.length_take_of_le hp.le
  rw [inFlight, inFlight, List.take_succ_eq_append_getElem hp, List.drop_append_of_le_length (by omega)]

theorem inFlight_get (hg : got < put) (hp : put ≤ frame.length) :
    inFlight frame put got = frame[got] :: inFlight frame put (got + 1) := by
  have hlen : got < (frame.take put).length := by
    rw [List.length_take_of_le hp]
    exact hg
  rw [inFlight, List.drop_eq_getElem_cons hlen, List.getElem_take]
  rfl

theorem inFlight_eq_nil_iff (hp : put ≤ frame.length) : inFlight frame put got = [] ↔ put ≤ got := by
  rw [inFlight, List.drop_eq_nil_iff, List.length_take_of_le hp]

@[simp] theorem inFlight_self : inFlight frame put put = [] := by
  rw [inFlight, List.drop_eq_nil_iff]
  exact List.length_take_le _ _

section Buffer

variable {m : Mem} {frame : List (BitVec 8)} {n : ℕ}

theorem holds_of_map_range (h : (List.range n).map m = frame) : Holds m 0 frame := by
  subst h
  intro i hi
  simp

theorem holds_take_succ (h : Holds m 0 (frame.take got)) (hg : got < frame.length) :
    Holds (store8 m got frame[got]) 0 (frame.take (got + 1)) := by
  have hsnoc := h.snoc frame[got]
  rwa [List.length_take_of_le hg.le, Nat.zero_add, ← List.take_succ_eq_append_getElem hg] at hsnoc

end Buffer

end GreeIntense.Lib.Wire
