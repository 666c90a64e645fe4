import GreeIntense.Slave.Extent
import Mathlib.Data.Nat.Find

/-!
# The length of a write request

The handlers of the function codes 15, 16 and 23 compare the byte count with the count, and the length
with a minimum only: a PDU shorter than its byte count says is completed from the bytes that earlier frames
left in the buffer.  `length_checked_iff` tells the requests that are handled by their own bytes and refused
when their length is wrong.

For that the coil loop is given in closed form (`setRun_eq`), as the register loop is by `regHoldAssign_eq`.
-/

namespace GreeIntense.Slave

open Lib.Memory Lib.Bits

/-! ### The coil loop in closed form -/

section Coils

variable (cur : sMBSlaveCommData)

/-- The coil is mapped and may be written. -/
def writableCoil (x : USHORT) : Bool :=
  match coil cur x with
  | some e => e.ucAccessMode ≠ .RO
  | none => false

/-- The variable of the coil at an address. -/
def coilVar (x : USHORT) : Option ℕ := (coil cur x).bind (·.pvValue)

/-- The last byte assigned to `b` when the bits `f k`, `f (k + 1)`, … go to `m` coils from `x` on. -/
def lastCoilByte (f : ℕ → Bool) : ℕ → ℕ → USHORT → ℕ → Option UCHAR
  | 0, _, _, _ => none
  | m + 1, k, x, b =>
    (lastCoilByte f m (k + 1) (x + 1) b).or (if coilVar cur x = some b then some (bitByte (f k)) else none)

variable {cur}

theorem setCoil_byte (vars : Mem) {x : USHORT} {e : sMBSlaveBitData} (he : coil cur x = some e) (c : UCHAR) (b : ℕ) :
    setCoil vars e c b = (if coilVar cur x = some b then some c else none).getD (vars b) := by
  rw [coilVar, he, Option.bind_some, setCoil]
  cases e.pvValue with
  | none => rfl
  | some q =>
    by_cases hq : q = b
    · subst hq
      simp
    · have hne : (some q : Option ℕ) ≠ some b := fun h => hq (Option.some.inj h)
      rw [if_neg hne]
      exact store8_ne _ _ _ _ (Ne.symm hq)

/-- **The coil loop in closed form**: it assigns the leading writable coils, and ends there with an error when
the next one is read-only, with a null pointer when it is unmapped. -/
theorem setRun_eq (f : ℕ → Bool) (m k : ℕ) (x : USHORT) (vars : Mem) :
    setRun cur f m k x vars =
      (if leading (writableCoil cur) m x = m then some .MB_ENOERR
        else (coil cur (x + BitVec.ofNat 16 (leading (writableCoil cur) m x))).map fun _ => .MB_ENOREG).map fun st =>
          (st, fun b => (lastCoilByte cur f (leading (writableCoil cur) m x) k x b).getD (vars b)) := by
  induction m generalizing k x vars with
  | zero => rfl
  | succ m ih =>
    cases he : coil cur x with
    | none =>
      have hw : writableCoil cur x = false := by rw [writableCoil, he]
      simp [setRun, leading, he, hw]
    | some e =>
      by_cases hro : e.ucAccessMode = .RO
      · have hw : writableCoil cur x = false := by simp [writableCoil, he, hro]
        simp [setRun, leading, he, hw, hro, lastCoilByte]
      · have hw : writableCoil cur x = true := by simp [writableCoil, he, hro]
        simp only [setRun, leading, he, hw, hro, if_false, if_true, ih, add_ofNat_succ, Nat.add_right_cancel_iff]
        congr 1
        funext st
        refine Prod.ext rfl (funext fun b => ?_)
        simp only [lastCoilByte, setCoil_byte vars he]
        cases lastCoilByte cur f (leading (writableCoil cur) m (x + 1)) (k + 1) (x + 1) b <;> rfl

theorem lastCoilByte_congr {f g : ℕ → Bool} {m k : ℕ} {x : USHORT}
    (h : ∀ j < m, coilVar cur (x + BitVec.ofNat 16 j) ≠ none → f (k + j) = g (k + j)) :
    lastCoilByte cur f m k x = lastCoilByte cur g m k x := by
  induction m generalizing k x with
  | zero => rfl
  | succ m ih =>
    have htail : lastCoilByte cur f m (k + 1) (x + 1) = lastCoilByte cur g m (k + 1) (x + 1) := by
      apply ih
      intro j hj hb
      rw [add_ofNat_succ] at hb
      rw [Nat.add_right_comm]
      exact h (j + 1) (by omega) hb
    funext b
    rw [lastCoilByte, lastCoilByte, htail]
    congr 1
    by_cases hb : coilVar cur x = some b
    · have h0 := h 0 (by omega)
      rw [add_ofNat_zero, hb] at h0
      rw [if_pos hb, if_pos hb, show f k = g k from h0 (by simp)]
    · rw [if_neg hb, if_neg hb]

theorem lastCoilByte_none {f : ℕ → Bool} {m k : ℕ} {x : USHORT} {b : ℕ}
    (h : ∀ i < m, coilVar cur (x + BitVec.ofNat 16 i) ≠ some b) : lastCoilByte cur f m k x b = none := by
  induction m generalizing k x with
  | zero => rfl
  | succ m ih =>
    have h0 : coilVar cur x ≠ some b := by simpa using h 0 (by omega)
    have htail : lastCoilByte cur f m (k + 1) (x + 1) b = none := by
      apply ih
      intro i hi
      rw [add_ofNat_succ]
      exact h (i + 1) (by omega)
    rw [lastCoilByte, htail, if_neg h0]
    rfl

theorem lastCoilByte_last {f : ℕ → Bool} {m k j : ℕ} {x : USHORT} {b : ℕ} (hj : j < m)
    (hb : coilVar cur (x + BitVec.ofNat 16 j) = some b)
    (hlast : ∀ i < m, j < i → coilVar cur (x + BitVec.ofNat 16 i) ≠ some b) :
    lastCoilByte cur f m k x b = some (bitByte (f (k + j))) := by
  induction m generalizing k x j with
  | zero => exact absurd hj (by omega)
  | succ m ih =>
    rw [lastCoilByte]
    cases j with
    | zero =>
      have hnone : lastCoilByte cur f m (k + 1) (x + 1) b = none := by
        apply lastCoilByte_none
        intro i hi
        rw [add_ofNat_succ]
        exact hlast (i + 1) (by omega) (by omega)
      rw [add_ofNat_zero] at hb
      rw [hnone, Option.none_or, if_pos hb]
      rfl
    | succ j =>
      rw [ih (j := j) (by omega) (by rw [add_ofNat_succ]; exact hb)
        (fun i hi hji => by rw [add_ofNat_succ]; exact hlast (i + 1) (by omega) (by omega)), Option.some_or,
        Nat.add_right_comm]
      rfl

end Coils

/-! ### The law and its condition -/

/-- The two stores hold the same PDU from `p` on, over the same variables; the bytes outside may differ. -/
structure SamePdu (p : ℕ) (s t : Store) : Prop where
  len : t.usLength = s.usLength
  vars : t.vars = s.vars
  bytes : ∀ i < s.usLength, t.ucRcvBuf (p + i) = s.ucRcvBuf (p + i)

/-- The length the byte count of the request announces. -/
def announced (f : WriteFunc) (p : ℕ) (s : Store) : ℕ :=
  f.byteCountAt + 1 + (s.ucRcvBuf (p + f.byteCountAt)).toNat

/-- **The length law**: the variables do not depend on bytes outside the PDU, and a request of another length
than it announces is answered with an exception and changes no variable. -/
structure LengthChecked (cur : sMBSlaveCommData) (f : WriteFunc) (v : USHORT) (p : ℕ) (s : Store) : Prop where
  data : ∀ t, SamePdu p s t →
    (execute cur v f.code p t).map (fun r => r.2.vars) = (execute cur v f.code p s).map (fun r => r.2.vars)
  refused : ∀ t, SamePdu p s t → t.usLength ≠ announced f p t →
    ∃ e t', execute cur v f.code p t = some (e, t') ∧ e ≠ .MB_EX_NONE ∧ t'.vars = t.vars

section Condition

variable (cur : sMBSlaveCommData) (f : WriteFunc) (p : ℕ) (s : Store)

/-- The loop stops at an entry that refuses its value. -/
def LoopStops : Prop :=
  match f with
  | .registers | .readWrite =>
    ¬takesAll cur (wordsAt s.ucRcvBuf (p + f.byteCountAt + 1) (loopEntries f p s)) (writeAddress f p s)
  | .coils =>
    let m := leading (writableCoil cur) (loopEntries f p s) (writeAddress f p s)
    m ≠ loopEntries f p s ∧ (coil cur (writeAddress f p s + BitVec.ofNat 16 m)).isSome

/-- The loop meets an unmapped coil before it stops: it reads through a null pointer. -/
def LoopCrashes : Prop :=
  let m := leading (writableCoil cur) (loopEntries f p s) (writeAddress f p s)
  f = .coils ∧ m ≠ loopEntries f p s ∧ (coil cur (writeAddress f p s + BitVec.ofNat 16 m)).isNone

/-- The last byte assigned to `b` before the loop ends. -/
def lastAssigned (b : ℕ) : Option UCHAR :=
  match f with
  | .registers | .readWrite =>
    lastByte cur (wordsAt s.ucRcvBuf (p + f.byteCountAt + 1) (loopEntries f p s)) (writeAddress f p s) b
  | .coils =>
    lastCoilByte cur (bitAt s.ucRcvBuf (p + f.byteCountAt + 1))
      (leading (writableCoil cur) (loopEntries f p s) (writeAddress f p s)) 0 (writeAddress f p s) b

/-- The loop leaves every variable as it is: what it assigns last is what stands there. -/
def LoopRewrites : Prop := ∀ b c, lastAssigned cur f p s b = some c → c = s.vars b

/-- No coil after the `n` of the request is bound, as far as the loop goes. -/
def ExtraUnbound : Prop :=
  ∀ j < leading (writableCoil cur) (loopEntries f p s) (writeAddress f p s), (writeCount f p s).toNat ≤ j →
    coilVar cur (writeAddress f p s + BitVec.ofNat 16 j) = none

/-- **The requests that meet the law.**  A function-code-23 request has at least its 10 bytes of header, and
a request that passes the checks made before the loop

* has the length it announces, and for function code 15 the loop over `n / 8 + 1` bytes assigns no coil beyond
  the `n` of the request (it has none such when `n` is no multiple of 8);
* or else is refused by the table, whatever the bytes outside the PDU: an entry of the range refuses its value
  or the range to be read is not in the table, and what is assigned before that stands there already. -/
def LengthSafe : Prop :=
  (f = .readWrite → 10 ≤ s.usLength) ∧
    (passes f p s cur →
      s.usLength = announced f p s ∧ (f = .coils → LoopCrashes cur f p s ∨ ExtraUnbound cur f p s) ∨
        s.usLength ≠ announced f p s ∧ ∀ t, SamePdu p s t →
          (LoopStops cur f p t ∨ ¬readCovered f p t cur) ∧ LoopRewrites cur f p t)

end Condition

section Law

variable {cur : sMBSlaveCommData} {f : WriteFunc} {v : USHORT} {p : ℕ} {s t : Store}

/-- The loop over all entries in closed form, unless it crashes. -/
theorem assignFirst_eq (h : ¬LoopCrashes cur f p s) :
    ∃ st, assignFirst f p s cur (loopEntries f p s) =
        some (st, fun b => (lastAssigned cur f p s b).getD (s.vars b)) ∧ (st = .MB_ENOERR ↔ ¬LoopStops cur f p s) := by
  have hwords (ws : List USHORT) (x : USHORT) : ∃ st, regHoldAssign cur ws x s.vars =
      (st, fun b => (lastByte cur ws x b).getD (s.vars b)) ∧ (st = .MB_ENOERR ↔ ¬¬takesAll cur ws x) := by
    obtain ⟨h1, h2⟩ := regHoldAssign_eq cur ws x s.vars
    exact ⟨_, Prod.ext rfl (funext h2), by rw [h1, not_not]⟩
  cases f with
  | registers =>
    obtain ⟨st, hr, hst⟩ :=
      hwords (wordsAt s.ucRcvBuf (p + 5 + 1) (loopEntries .registers p s)) (writeAddress .registers p s)
    exact ⟨st, congrArg some hr, hst⟩
  | readWrite =>
    obtain ⟨st, hr, hst⟩ :=
      hwords (wordsAt s.ucRcvBuf (p + 9 + 1) (loopEntries .readWrite p s)) (writeAddress .readWrite p s)
    exact ⟨st, congrArg some hr, hst⟩
  | coils =>
    rw [assignFirst, setRun_eq]
    by_cases hm : leading (writableCoil cur) (loopEntries .coils p s) (writeAddress .coils p s) = loopEntries .coils p s
    · rw [if_pos hm]
      exact ⟨.MB_ENOERR, rfl, iff_of_true rfl fun hs => hs.1 hm⟩
    · rw [if_neg hm]
      cases hc : coil cur (writeAddress .coils p s +
          BitVec.ofNat 16 (leading (writableCoil cur) (loopEntries .coils p s) (writeAddress .coils p s))) with
      | none => exact absurd ⟨rfl, hm, by rw [hc]; rfl⟩ h
      | some e => exact ⟨.MB_ENOREG, rfl, iff_of_false nofun fun hs => hs ⟨hm, by rw [hc]; rfl⟩⟩

theorem assignFirst_crash (h : LoopCrashes cur f p s) : assignFirst f p s cur (loopEntries f p s) = none := by
  obtain ⟨rfl, hm, hc⟩ := h
  rw [assignFirst, setRun_eq, if_neg hm, Option.isNone_iff_eq_none.mp hc]
  rfl

theorem execute_loop (hp : passes f p s cur) (h : ¬LoopCrashes cur f p s) :
    ∃ e s', execute cur v f.code p s = some (e, s') ∧
      (s'.vars = fun b => (lastAssigned cur f p s b).getD (s.vars b)) ∧
      (e ≠ .MB_EX_NONE ↔ LoopStops cur f p s ∨ ¬readCovered f p s cur) := by
  obtain ⟨st, hr, hst⟩ := assignFirst_eq h
  have hx := execute_passes (v := v) hp
  rw [hr, Option.map_some] at hx
  obtain ⟨⟨e, s'⟩, hes, he⟩ := Option.map_eq_some_iff.mp hx
  obtain ⟨h1, h2⟩ := Prod.mk.inj he
  refine ⟨e, s', hes, h2, ?_⟩
  have he' : e = loopAnswer f p s cur st := h1
  rw [he', loopAnswer]
  by_cases hs : LoopStops cur f p s
  · have hne : st ≠ .MB_ENOERR := fun h => hst.mp h hs
    rw [if_neg fun h => hne h.1, ne_eq, error2Exception_eq_none]
    exact iff_of_true hne (Or.inl hs)
  · have hok : st = .MB_ENOERR := hst.mpr hs
    by_cases hc : readCovered f p s cur
    · rw [if_neg fun h => h.2 hc, hok]
      exact iff_of_false (by simp [prveMBSlaveError2Exception]) (by simp [hs, hc])
    · rw [if_pos ⟨hok, hc⟩]
      exact iff_of_true (by decide) (Or.inr hc)

theorem execute_crash (hp : passes f p s cur) (h : LoopCrashes cur f p s) : execute cur v f.code p s = none := by
  have hx := execute_passes (v := v) hp
  rw [assignFirst_crash h] at hx
  exact Option.map_eq_none_iff.mp hx

/-! ### Stores with the same PDU -/

theorem SamePdu.refl (p : ℕ) (s : Store) : SamePdu p s s := ⟨rfl, rfl, fun _ _ => rfl⟩

theorem SamePdu.word (h : SamePdu p s t) {k : ℕ} (hk : k + 1 < s.usLength) :
    loadBE t.ucRcvBuf (p + k) = loadBE s.ucRcvBuf (p + k) := by
  have h0 := h.bytes k (by omega)
  have h1 : t.ucRcvBuf (p + k + 1) = s.ucRcvBuf (p + k + 1) := h.bytes (k + 1) hk
  rw [loadBE, loadBE, h0, h1]

theorem SamePdu.address (h : SamePdu p s t) (hl : f.byteCountAt < s.usLength) :
    writeAddress f p t = writeAddress f p s := by
  cases f with
  | registers | coils =>
    have hl' : 5 < s.usLength := hl
    exact h.word (by omega)
  | readWrite =>
    have hl' : 9 < s.usLength := hl
    exact congrArg (· + 1) (h.word (by omega))

theorem SamePdu.count (h : SamePdu p s t) (hl : f.byteCountAt < s.usLength) : writeCount f p t = writeCount f p s := by
  cases f with
  | registers | coils =>
    have hl' : 5 < s.usLength := hl
    exact h.word (by omega)
  | readWrite =>
    have hl' : 9 < s.usLength := hl
    exact h.word (by omega)

theorem SamePdu.entries (h : SamePdu p s t) (hl : f.byteCountAt < s.usLength) :
    loopEntries f p t = loopEntries f p s := by
  cases f <;> simp only [loopEntries, h.count hl]

theorem SamePdu.announced_eq (h : SamePdu p s t) (hl : f.byteCountAt < s.usLength) :
    announced f p t = announced f p s := by
  rw [announced, announced, h.bytes _ hl]

theorem headerOk_length (h : headerOk f p s) : f.byteCountAt < s.usLength := by
  cases f with
  | registers => exact h.1
  | coils => exact h.1
  | readWrite => exact h.1

theorem SamePdu.header (h : SamePdu p s t) (hh : headerOk f p s) : headerOk f p t := by
  have hl := headerOk_length hh
  have hn := h.count (f := f) hl
  have hb := h.bytes _ hl
  cases f with
  | registers =>
    obtain ⟨hlen, hc, hbc⟩ := hh
    refine ⟨by rw [h.len]; exact hlen, ?_, ?_⟩
    · rw [hn]
      exact hc
    · rw [hn, hb]
      exact hbc
  | coils =>
    obtain ⟨hlen, hc, hbc⟩ := hh
    refine ⟨by rw [h.len]; exact hlen, ?_, ?_⟩
    · rw [hn]
      exact hc
    · rw [hn, hb]
      exact hbc
  | readWrite =>
    obtain ⟨hlen, hr, hc, hbc⟩ := hh
    have hrn := h.word (k := 3) (by omega)
    refine ⟨by rw [h.len]; exact hlen, ?_, ?_, ?_⟩
    · rw [hrn]
      exact hr
    · rw [hn]
      exact hc
    · rw [hn, hb]
      exact hbc

theorem SamePdu.pass (h : SamePdu p s t) (hp : passes f p s cur) : passes f p t cur := by
  obtain ⟨hh, hc⟩ := hp
  have hl := headerOk_length hh
  refine ⟨h.header hh, ?_⟩
  cases f <;> simp only [writeCovered, h.address hl, h.count hl] <;> exact hc

theorem SamePdu.symm (h : SamePdu p s t) : SamePdu p t s :=
  ⟨h.len.symm, h.vars.symm, fun i hi => (h.bytes i (by rw [← h.len]; exact hi)).symm⟩

theorem SamePdu.crashes (h : SamePdu p s t) (hl : f.byteCountAt < s.usLength) :
    LoopCrashes cur f p t ↔ LoopCrashes cur f p s := by
  rw [LoopCrashes, LoopCrashes, h.address hl, h.entries hl]

theorem not_crashes_of_refused (h : LoopStops cur f p s ∨ ¬readCovered f p s cur) : ¬LoopCrashes cur f p s := by
  rintro ⟨rfl, -, hnone⟩
  rcases h with ⟨-, hsome⟩ | hr
  · rw [Option.isNone_iff_eq_none.mp hnone] at hsome
    exact absurd hsome (by decide)
  · exact hr nofun

theorem headerOk_byteCount (h : headerOk f p s) :
    (s.ucRcvBuf (p + f.byteCountAt)).toNat =
      if f = .coils then ((writeCount f p s).toNat + 7) / 8 else 2 * (writeCount f p s).toNat := by
  cases f with
  | registers =>
    obtain ⟨-, hn, hb⟩ := h
    rw [hb, if_neg (by decide), BitVec.mul_comm, lo_mul_two, BitVec.toNat_ofNat]
    omega
  | coils =>
    obtain ⟨-, hn, hb⟩ := h
    rw [← hb, if_pos rfl, coilBytes_eq, BitVec.toNat_ofNat]
    omega
  | readWrite =>
    obtain ⟨-, -, -, hb⟩ := h
    rw [← hb, if_neg (by decide)]

theorem wordsAt_congr {m m' : Mem} {q n : ℕ} (h : ∀ i < 2 * n, m' (q + i) = m (q + i)) :
    wordsAt m' q n = wordsAt m q n := by
  apply List.map_congr_left
  intro i hi
  have hi' := List.mem_range.mp hi
  have h0 := h (2 * i) (by omega)
  have h1 : m' (q + 2 * i + 1) = m (q + 2 * i + 1) := h (2 * i + 1) (by omega)
  rw [loadBE, loadBE, h0, h1]

/-- A request of the announced length assigns from its own bytes, except for the coils beyond its count. -/
theorem SamePdu.assigned (h : SamePdu p s t) (hh : headerOk f p s) (hlen : s.usLength = announced f p s)
    (hx : f = .coils → ExtraUnbound cur f p s) : lastAssigned cur f p t = lastAssigned cur f p s := by
  have hl := headerOk_length hh
  have hb := headerOk_byteCount hh
  have hwords (hf : f ≠ .coils) : wordsAt t.ucRcvBuf (p + f.byteCountAt + 1) (writeCount f p s).toNat =
      wordsAt s.ucRcvBuf (p + f.byteCountAt + 1) (writeCount f p s).toNat := by
    rw [if_neg hf] at hb
    rw [announced] at hlen
    apply wordsAt_congr
    intro i hi
    rw [Nat.add_assoc, Nat.add_assoc]
    exact h.bytes _ (by omega)
  funext b
  cases f with
  | registers =>
    simp only [lastAssigned, loopEntries, h.address hl, h.count hl]
    rw [hwords (by decide)]
  | readWrite =>
    simp only [lastAssigned, loopEntries, h.address hl, h.count hl]
    rw [hwords (by decide)]
  | coils =>
    simp only [lastAssigned, h.address hl, h.entries hl]
    refine congrFun (lastCoilByte_congr fun j hj hbound => ?_) b
    -- a coil beyond the count is bound to no variable
    have hjn : j < (writeCount .coils p s).toNat := by
      by_contra hge
      exact hbound (hx rfl j hj (by omega))
    have hlen' : s.usLength = 5 + 1 + (s.ucRcvBuf (p + 5)).toNat := hlen
    have hb' : (s.ucRcvBuf (p + 5)).toNat = ((writeCount .coils p s).toNat + 7) / 8 := hb
    rw [Nat.zero_add, bitAt, bitAt, Nat.add_assoc, Nat.add_assoc, h.bytes]
    change 5 + (1 + j / 8) < _
    omega

theorem samePdu_flip (p : ℕ) (s : Store) :
    SamePdu p s { s with ucRcvBuf := store8 s.ucRcvBuf (p + s.usLength) (~~~s.ucRcvBuf (p + s.usLength)) } :=
  ⟨rfl, rfl, fun i hi => store8_ne _ _ _ _ (by omega)⟩

/-- The last bound coil that the loop of a function-code-15 request reaches beyond the count. -/
theorem last_extra_coil (hx : ¬ExtraUnbound cur .coils p s) :
    ∃ j q, j < leading (writableCoil cur) (loopEntries .coils p s) (writeAddress .coils p s) ∧
      (writeCount .coils p s).toNat ≤ j ∧ coilVar cur (writeAddress .coils p s + BitVec.ofNat 16 j) = some q ∧
      ∀ i < leading (writableCoil cur) (loopEntries .coils p s) (writeAddress .coils p s), j < i →
        coilVar cur (writeAddress .coils p s + BitVec.ofNat 16 i) = none := by
  set L := leading (writableCoil cur) (loopEntries .coils p s) (writeAddress .coils p s)
  set Q : ℕ → Prop := fun j => (writeCount .coils p s).toNat ≤ j ∧
    coilVar cur (writeAddress .coils p s + BitVec.ofNat 16 j) ≠ none
  obtain ⟨j, hj, hn, hb⟩ : ∃ j, j < L ∧ Q j := by
    by_contra hno
    exact hx fun j hj hn => by_contra fun hb => hno ⟨j, hj, hn, hb⟩
  have hspec : Q (Nat.findGreatest Q (L - 1)) := Nat.findGreatest_spec (P := Q) (show j ≤ L - 1 by omega) ⟨hn, hb⟩
  have hle : Nat.findGreatest Q (L - 1) ≤ L - 1 := Nat.findGreatest_le _
  obtain ⟨q, hq⟩ := Option.ne_none_iff_exists'.mp hspec.2
  refine ⟨_, q, by omega, hspec.1, hq, ?_⟩
  intro i hi hlt
  by_contra hbi
  have hno : ¬Q i := Nat.findGreatest_is_greatest hlt (by omega)
  exact hno ⟨by have := hspec.1; omega, hbi⟩

theorem bitByte_not_ne (b : Bool) : bitByte (!b) ≠ bitByte b := by
  cases b <;> decide

/-- When the loop of a function-code-15 request reaches a bound coil beyond the count, the byte after the PDU
decides its value. -/
theorem extra_coil_depends (hp : passes .coils p s cur) (hlen : s.usLength = announced .coils p s)
    (hx : ¬ExtraUnbound cur .coils p s) :
    ∃ t q c c', SamePdu p s t ∧ lastAssigned cur .coils p t q = some c ∧ lastAssigned cur .coils p s q = some c' ∧
      c ≠ c' := by
  obtain ⟨j, q, hj, hn, hq, hlast⟩ := last_extra_coil hx
  have hl := headerOk_length hp.1
  have ht := samePdu_flip p s
  have hlast' : ∀ i < leading (writableCoil cur) (loopEntries .coils p s) (writeAddress .coils p s), j < i →
      coilVar cur (writeAddress .coils p s + BitVec.ofNat 16 i) ≠ some q := by
    intro i hi hji
    rw [hlast i hi hji]
    nofun
  -- the count is a multiple of 8 and the coil is one of the eight after it
  have hent : loopEntries .coils p s = runBits (writeCount .coils p s).toNat := rfl
  have hjm := hj.trans_le (le_leading.mp le_rfl).1
  have hb : (s.ucRcvBuf (p + 5)).toNat = ((writeCount .coils p s).toNat + 7) / 8 := headerOk_byteCount hp.1
  have hlen' : s.usLength = 5 + 1 + (s.ucRcvBuf (p + 5)).toNat := hlen
  have hbyte : p + 5 + 1 + (0 + j) / 8 = p + s.usLength := by
    rw [hent, runBits] at hjm
    split at hjm <;> omega
  refine ⟨_, q, _, _, ht, ?_, lastCoilByte_last hj hq hlast', bitByte_not_ne _⟩
  rw [lastAssigned, ht.address hl, ht.entries hl]
  refine (lastCoilByte_last hj hq hlast').trans (congrArg (fun b => some (bitByte b)) ?_)
  rw [bitAt, bitAt]
  change (store8 _ _ _ (p + 5 + 1 + (0 + j) / 8)).getLsbD _ = !(s.ucRcvBuf (p + 5 + 1 + (0 + j) / 8)).getLsbD _
  rw [hbyte, store8_same, BitVec.getLsbD_not]
  simp [Nat.mod_lt]

/-! ### Refused requests -/

/-- The request is answered with an exception and changes no variable. -/
def WriteRefused (cur : sMBSlaveCommData) (f : WriteFunc) (v : USHORT) (p : ℕ) (s : Store) : Prop :=
  ∃ e s', execute cur v f.code p s = some (e, s') ∧ e ≠ .MB_EX_NONE ∧ s'.vars = s.vars

theorem WriteRefused.vars (h : WriteRefused cur f v p s) :
    (execute cur v f.code p s).map (fun r => r.2.vars) = some s.vars := by
  obtain ⟨e, s', hx, -, hv⟩ := h
  rw [hx, Option.map_some, hv]

/-- A request that fails a check made before the loop is refused, but for a short one of function code 23. -/
theorem refused_iff_of_not_passes (hp : ¬passes f p s cur) :
    WriteRefused cur f v p s ↔ ¬(f = .readWrite ∧ s.usLength < 10) := by
  obtain ⟨e, s', hx, hv, he⟩ := execute_not_passes (v := v) hp
  constructor
  · rintro ⟨e', s'', hx', hne, -⟩ hshort
    rw [hx] at hx'
    cases hx'
    exact hne (he.mpr hshort)
  · intro hlong
    exact ⟨e, s', hx, fun h => hlong (he.mp h), hv⟩

/-- A request that passes is refused when the table refuses it and what is assigned before that stands there. -/
theorem refused_iff_of_passes (hp : passes f p s cur) :
    WriteRefused cur f v p s ↔ (LoopStops cur f p s ∨ ¬readCovered f p s cur) ∧ LoopRewrites cur f p s := by
  constructor
  · rintro ⟨e, s', hx, hne, hv⟩
    have hc : ¬LoopCrashes cur f p s := by
      intro hc
      rw [execute_crash hp hc] at hx
      cases hx
    obtain ⟨e', s'', hx', hv', he'⟩ := execute_loop (v := v) hp hc
    rw [hx] at hx'
    cases hx'
    refine ⟨he'.mp hne, ?_⟩
    intro b c hb
    have hbyte := congrFun (hv.symm.trans hv') b
    rw [hb] at hbyte
    exact hbyte.symm
  · rintro ⟨hstop, hrew⟩
    obtain ⟨e, s', hx, hv, he⟩ := execute_loop (v := v) hp (not_crashes_of_refused hstop)
    refine ⟨e, s', hx, he.mpr hstop, ?_⟩
    rw [hv]
    funext b
    cases hb : lastAssigned cur f p s b with
    | none => rfl
    | some c => exact hrew b c hb

/-- A request of the announced length depends on its own bytes only, unless its loop reaches a bound coil beyond
the count. -/
theorem same_vars_iff (hp : passes f p s cur) (hlen : s.usLength = announced f p s) :
    (∀ t, SamePdu p s t →
      (execute cur v f.code p t).map (fun r => r.2.vars) = (execute cur v f.code p s).map (fun r => r.2.vars)) ↔
    (f = .coils → LoopCrashes cur f p s ∨ ExtraUnbound cur f p s) := by
  have hl := headerOk_length hp.1
  constructor
  · rintro hdata rfl
    by_contra hno
    obtain ⟨hc, hx⟩ := not_or.mp hno
    obtain ⟨t, q, c, c', ht, hct, hcs, hne⟩ := extra_coil_depends hp hlen hx
    obtain ⟨e, s', hes, hvs, -⟩ := execute_loop (v := v) hp hc
    obtain ⟨e', t', het, hvt, -⟩ := execute_loop (v := v) (ht.pass hp) (mt (ht.crashes hl).mp hc)
    have hsame := hdata t ht
    rw [hes, het] at hsame
    have hvars : t'.vars = s'.vars := Option.some.inj hsame
    have hbyte := congrFun (hvt.symm.trans (hvars.trans hvs)) q
    rw [hct, hcs] at hbyte
    exact hne hbyte
  · intro hextra t ht
    by_cases hc : LoopCrashes cur f p s
    · rw [execute_crash hp hc, execute_crash (ht.pass hp) ((ht.crashes hl).mpr hc)]
    · have hx : f = .coils → ExtraUnbound cur f p s := fun hf => (hextra hf).resolve_left hc
      obtain ⟨e, s', hes, hvs, -⟩ := execute_loop (v := v) hp hc
      obtain ⟨e', t', het, hvt, -⟩ := execute_loop (v := v) (ht.pass hp) (mt (ht.crashes hl).mp hc)
      rw [hes, het, Option.map_some, Option.map_some, hvs, hvt, ht.assigned hp.1 hlen hx, ht.vars]

/-- Whatever the bytes outside the PDU, a request that is not let through with its length is refused. -/
theorem LengthSafe.refused (h : LengthSafe cur f p s) (hno : ¬(passes f p s cur ∧ s.usLength = announced f p s))
    (ht : SamePdu p s t) : WriteRefused cur f v p t := by
  obtain ⟨hshort, hsafe⟩ := h
  by_cases hp : passes f p s cur
  · have hlen : s.usLength ≠ announced f p s := fun hlen => hno ⟨hp, hlen⟩
    obtain ⟨-, htable⟩ := (hsafe hp).resolve_left fun h => hlen h.1
    exact (refused_iff_of_passes (ht.pass hp)).mpr (htable t ht)
  · apply (refused_iff_of_not_passes (mt ht.symm.pass hp)).mpr
    rintro ⟨hf, hl⟩
    have h10 := hshort hf
    rw [ht.len] at hl
    omega

/-- **The requests whose length is checked**: a write request is handled by its own bytes and refused when its
length is wrong exactly when it is `LengthSafe`. -/
theorem length_checked_iff (cur : sMBSlaveCommData) (f : WriteFunc) (v : USHORT) (p : ℕ) (s : Store) :
    LengthChecked cur f v p s ↔ LengthSafe cur f p s := by
  constructor
  · rintro ⟨hdata, href⟩
    constructor
    · intro hf
      by_contra hl
      subst hf
      -- a short request of function code 23 is neither carried out nor refused
      have hnp : ¬passes .readWrite p s cur := fun h => hl h.1.1
      have hne : s.usLength ≠ announced .readWrite p s := by
        rw [announced]
        change s.usLength ≠ 9 + 1 + _
        omega
      exact (refused_iff_of_not_passes hnp).mp (href s (.refl p s) hne) ⟨rfl, by omega⟩
    · intro hp
      have hl := headerOk_length hp.1
      by_cases hlen : s.usLength = announced f p s
      · exact Or.inl ⟨hlen, (same_vars_iff hp hlen).mp hdata⟩
      · -- a request with another length than announced is refused
        refine Or.inr ⟨hlen, fun t ht => ?_⟩
        apply (refused_iff_of_passes (ht.pass hp)).mp (href t ht _)
        rw [ht.len, ht.announced_eq hl]
        exact hlen
  · intro h
    by_cases hok : passes f p s cur ∧ s.usLength = announced f p s
    · obtain ⟨hp, hlen⟩ := hok
      have hextra : f = .coils → LoopCrashes cur f p s ∨ ExtraUnbound cur f p s := by
        rcases h.2 hp with ⟨-, hextra⟩ | ⟨hne, -⟩
        · exact hextra
        · exact absurd hlen hne
      refine ⟨(same_vars_iff hp hlen).mpr hextra, fun t ht hne => absurd ?_ hne⟩
      rw [ht.len, ht.announced_eq (headerOk_length hp.1)]
      exact hlen
    · refine ⟨fun t ht => ?_, fun t ht _ => h.refused hok ht⟩
      rw [(h.refused hok ht).vars, (h.refused hok (.refl p s)).vars, ht.vars]

end Law

/-- A function-code-16 request for one word whose PDU ends before the word: 500 is left in the buffer by an
earlier frame. -/
def truncatedWrite : Store := { storeOf 7 (writeRequest 3 [500]) fun _ => 0 with usLength := 6 }

/-- The truncated request is carried out, with the word of the earlier frame. -/
theorem length_not_checked : ¬LengthChecked oneRegister .registers 0 7 truncatedWrite := by
  intro h
  obtain ⟨e, t', hx, he, -⟩ := h.refused truncatedWrite (SamePdu.refl 7 truncatedWrite) (by decide)
  have hok : (execute oneRegister 0 WriteFunc.registers.code 7 truncatedWrite).map (·.1) = some .MB_EX_NONE := by
    decide
  rw [hx] at hok
  exact he (Option.some.inj hok)

end GreeIntense.Slave
