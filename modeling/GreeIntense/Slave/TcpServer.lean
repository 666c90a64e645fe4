import GreeIntense.Lib.Run
import Mathlib.Data.Finset.Card
import Mathlib.Data.Fintype.Card
import Mathlib.Data.List.FinRange

/-!
# The connections of the slave (`mbtcp.c`, `mbporttcp.c`)

A server task accepts connections into the slots of `sMBSlaveTcpClients`, of which there are `MB_SLAVE_MAX_TCP_CLIENT`;
the poll task of a slot gives its connection up when `recv` fails.  The tasks take turns at any statement: between the
two statements that give a connection up the slot is free already and its socket is not closed yet.

* `sockets_owned_iff`: every open socket belongs to one slot exactly when no connection has been put into a slot that
  was being given up, and every slot could be registered; otherwise a socket stays open for good;
* `callbacks_iff`: every slot with a poll task has the callbacks of the server exactly when no slot was free before one
  that was used for the first time.
-/

namespace GreeIntense.Slave.TcpServer

open Lib.Run

/-- A slot and its poll task, which is there when the slot has been registered; `closing` says that the task has cleared
`xSocketConnected` and has not called `close` yet. -/
structure Client where
  xSocketConnected : Bool
  fd : ℕ
  registered : Bool
  closing : Bool
  pvMBSlaveCallback : Bool
  deriving DecidableEq, Repr

/-- The server looks for a free slot, or waits in `accept` after it has found one. -/
inductive Phase (n : ℕ)
  | looking
  | accepting (i : Fin n)
  deriving DecidableEq, Repr

/-- `sMBSlaveTcpInfo` and the server task; `sockets` are those that are open. -/
structure Server (n : ℕ) where
  sMBSlaveTcpClients : Fin n → Client
  iClientNum : ℕ
  phase : Phase n
  sockets : Finset ℕ

/-- The server looks for a slot; `accept` returns a socket, and a new slot is registered or is not; `accept` fails;
`recv` fails in a slot; the socket of the slot is closed. -/
inductive ServerEvent (n : ℕ)
  | search
  | accept (iSocketClient : ℕ) (xRegist : Bool)
  | acceptFails
  | recvFails (j : Fin n)
  | close (j : Fin n)

variable {n : ℕ}

def freeSlot (s : Server n) : Option (Fin n) :=
  (List.finRange n).find? fun i => !(s.sMBSlaveTcpClients i).xSocketConnected

def setClient (j : Fin n) (c : Client) (s : Server n) : Server n :=
  { s with sMBSlaveTcpClients := Function.update s.sMBSlaveTcpClients j c }

/-- A slot is used for the first time; `xRegist` says that its poll task could be created.  The callbacks are set in the
slot that was found free. -/
def registClient (i k : Fin n) (iSocketClient : ℕ) (xRegist : Bool) (s : Server n) : Server n :=
  let s := if xRegist then
      let s := setClient k { s.sMBSlaveTcpClients k with
        xSocketConnected := true, fd := iSocketClient, registered := true } s
      setClient i { s.sMBSlaveTcpClients i with pvMBSlaveCallback := true } s
    else setClient k { s.sMBSlaveTcpClients k with fd := iSocketClient } s
  { s with iClientNum := s.iClientNum + 1 }

def reuseClient (iSocketClient : ℕ) (s : Server n) : Server n :=
  match freeSlot s with
  | some j => setClient j { s.sMBSlaveTcpClients j with xSocketConnected := true, fd := iSocketClient } s
  | none => s

/-- A step of the server task or of a poll task. -/
def serverStep (s : Server n) : ServerEvent n → Option (Server n)
  | .search =>
    match s.phase with
    | .looking => some { s with phase := (freeSlot s).elim .looking .accepting }
    | .accepting _ => none
  | .accept iSocketClient xRegist =>
    match s.phase with
    | .looking => none
    | .accepting i =>
      if iSocketClient ∈ s.sockets then none
      else
        let s := { s with phase := .looking, sockets := insert iSocketClient s.sockets }
        some (if h : s.iClientNum < n then registClient i ⟨s.iClientNum, h⟩ iSocketClient xRegist s
          else reuseClient iSocketClient s)
  | .acceptFails =>
    match s.phase with
    | .looking => none
    | .accepting _ => some { s with phase := .looking }
  | .recvFails j =>
    let c := s.sMBSlaveTcpClients j
    if c.registered ∧ c.xSocketConnected ∧ ¬c.closing then
      some (setClient j { c with xSocketConnected := false, closing := true } s)
    else none
  | .close j =>
    let c := s.sMBSlaveTcpClients j
    if c.closing then some { setClient j { c with closing := false } s with sockets := s.sockets.erase c.fd } else none

/-- The server task when it has its socket: no slot is connected. -/
def vMBSlaveTcpServerTask (n : ℕ) : Server n where
  sMBSlaveTcpClients := fun _ => ⟨false, 0, false, false, false⟩
  iClientNum := 0
  phase := .looking
  sockets := ∅

/-! ### What every run keeps -/

/-- The slot has a socket: it is connected, or its connection is being given up. -/
def Client.Busy (c : Client) : Prop := c.xSocketConnected = true ∨ c.closing = true

/-- Slots that have not been used are as they were; the server waits for a connection only with a free slot, and while
there are unused slots that is none behind the first of them. -/
structure Inv (s : Server n) : Prop where
  unused : ∀ k : Fin n, s.iClientNum ≤ k.val →
    (s.sMBSlaveTcpClients k).xSocketConnected = false ∧ (s.sMBSlaveTcpClients k).closing = false ∧
      (s.sMBSlaveTcpClients k).registered = false ∧ (s.sMBSlaveTcpClients k).pvMBSlaveCallback = false
  free : ∀ i, s.phase = .accepting i → (s.sMBSlaveTcpClients i).xSocketConnected = false ∧ i.val ≤ s.iClientNum

section Keeps

variable {s s' : Server n} {e : ServerEvent n} {i j k : Fin n} {fd : ℕ}

@[simp] theorem setClient_same (c : Client) : (setClient j c s).sMBSlaveTcpClients j = c := Function.update_self ..

theorem setClient_ne (c : Client) (h : k ≠ j) : (setClient j c s).sMBSlaveTcpClients k = s.sMBSlaveTcpClients k :=
  Function.update_of_ne h ..

theorem freeSlot_some (h : freeSlot s = some j) : (s.sMBSlaveTcpClients j).xSocketConnected = false := by
  simpa using List.find?_some h

theorem freeSlot_le (h : freeSlot s = some j) (hk : (s.sMBSlaveTcpClients k).xSocketConnected = false) : j ≤ k := by
  obtain ⟨-, i, hi, hij, hbefore⟩ := List.find?_eq_some_iff_getElem.mp h
  have hval : j.val = i := by
    rw [← hij]
    simp
  by_contra hlt
  have hk' := hbefore k.val (by omega)
  simp [hk] at hk'

theorem exists_freeSlot (hk : (s.sMBSlaveTcpClients k).xSocketConnected = false) : ∃ j, freeSlot s = some j := by
  have hsome : (freeSlot s).isSome = true := by
    rw [freeSlot, List.find?_isSome]
    exact ⟨k, List.mem_finRange k, by simp [hk]⟩
  exact Option.isSome_iff_exists.mp hsome

theorem registClient_clients (m : Fin n) :
    (registClient i k fd true s).sMBSlaveTcpClients m =
      { (if m = k then { s.sMBSlaveTcpClients k with xSocketConnected := true, fd := fd, registered := true }
          else s.sMBSlaveTcpClients m) with
        pvMBSlaveCallback := (s.sMBSlaveTcpClients m).pvMBSlaveCallback || decide (m = i) } := by
  have hregist : (registClient i k fd true s).sMBSlaveTcpClients m =
      (setClient i { (setClient k { s.sMBSlaveTcpClients k with
          xSocketConnected := true, fd := fd, registered := true } s).sMBSlaveTcpClients i with
            pvMBSlaveCallback := true }
        (setClient k { s.sMBSlaveTcpClients k with
          xSocketConnected := true, fd := fd, registered := true } s)).sMBSlaveTcpClients m := rfl
  rw [hregist]
  by_cases hi : m = i
  · subst hi
    rw [setClient_same]
    by_cases hk : m = k
    · subst hk
      simp
    · rw [setClient_ne _ hk]
      simp [hk]
  · rw [setClient_ne _ hi]
    by_cases hk : m = k
    · subst hk
      simp [hi]
    · rw [setClient_ne _ hk]
      simp [hi, hk]

theorem accept_cases {xRegist : Bool} (h : serverStep s (.accept fd xRegist) = some s') :
    ∃ i, s.phase = .accepting i ∧ fd ∉ s.sockets ∧ s'.phase = .looking ∧ s'.sockets = insert fd s.sockets ∧
      ((∃ hk : s.iClientNum < n, s'.iClientNum = s.iClientNum + 1 ∧
          (xRegist = true ∧ s'.sMBSlaveTcpClients =
              (registClient i ⟨s.iClientNum, hk⟩ fd true s).sMBSlaveTcpClients ∨
            xRegist = false ∧ s'.sMBSlaveTcpClients = (setClient ⟨s.iClientNum, hk⟩ {
              s.sMBSlaveTcpClients ⟨s.iClientNum, hk⟩ with fd := fd } s).sMBSlaveTcpClients)) ∨
        n ≤ s.iClientNum ∧ s'.iClientNum = s.iClientNum ∧
          (freeSlot s = none ∧ s'.sMBSlaveTcpClients = s.sMBSlaveTcpClients ∨
            ∃ j, freeSlot s = some j ∧ s'.sMBSlaveTcpClients = (setClient j { s.sMBSlaveTcpClients j with
              xSocketConnected := true, fd := fd } s).sMBSlaveTcpClients)) := by
  rw [serverStep] at h
  cases hp : s.phase with
  | looking =>
    rw [hp] at h
    cases h
  | accepting i =>
    rw [hp] at h
    dsimp only at h
    split_ifs at h with hfd hk
    · obtain rfl := Option.some.inj h
      cases xRegist with
      | true => exact ⟨i, rfl, hfd, rfl, rfl, Or.inl ⟨hk, rfl, Or.inl ⟨rfl, rfl⟩⟩⟩
      | false => exact ⟨i, rfl, hfd, rfl, rfl, Or.inl ⟨hk, rfl, Or.inr ⟨rfl, rfl⟩⟩⟩
    · obtain rfl := Option.some.inj h
      rw [reuseClient]
      have hsame : freeSlot { s with phase := .looking, sockets := insert fd s.sockets } = freeSlot s := rfl
      rw [hsame]
      cases hfree : freeSlot s with
      | none => exact ⟨i, rfl, hfd, rfl, rfl, Or.inr ⟨not_lt.mp hk, rfl, Or.inl ⟨rfl, rfl⟩⟩⟩
      | some j => exact ⟨i, rfl, hfd, rfl, rfl, Or.inr ⟨not_lt.mp hk, rfl, Or.inr ⟨j, rfl, rfl⟩⟩⟩

/-- What looking for a slot does, and a connection that is not accepted. -/
theorem search_cases (h : serverStep s e = some s') (he : e = .search ∨ e = .acceptFails) :
    s'.sMBSlaveTcpClients = s.sMBSlaveTcpClients ∧ s'.sockets = s.sockets ∧ s'.iClientNum = s.iClientNum ∧
      ∀ i, s'.phase = .accepting i → freeSlot s = some i := by
  obtain rfl | rfl := he
  · rw [serverStep] at h
    cases hp : s.phase with
    | accepting i =>
      rw [hp] at h
      cases h
    | looking =>
      rw [hp] at h
      obtain rfl := Option.some.inj h
      refine ⟨rfl, rfl, rfl, fun i hi => ?_⟩
      cases hfree : freeSlot s with
      | none =>
        rw [hfree] at hi
        cases hi
      | some j =>
        rw [hfree] at hi
        cases hi
        rfl
  · rw [serverStep] at h
    cases hp : s.phase with
    | looking =>
      rw [hp] at h
      cases h
    | accepting i =>
      rw [hp] at h
      obtain rfl := Option.some.inj h
      exact ⟨rfl, rfl, rfl, fun _ hc => by cases hc⟩

theorem recvFails_cases (h : serverStep s (.recvFails j) = some s') :
    (s.sMBSlaveTcpClients j).registered = true ∧ (s.sMBSlaveTcpClients j).xSocketConnected = true ∧
      s'.phase = s.phase ∧ s'.iClientNum = s.iClientNum ∧ s'.sockets = s.sockets ∧
        s'.sMBSlaveTcpClients =
          (setClient j { s.sMBSlaveTcpClients j with xSocketConnected := false, closing := true }
            s).sMBSlaveTcpClients := by
  rw [serverStep] at h
  split_ifs at h with hc
  obtain rfl := Option.some.inj h
  exact ⟨hc.1, hc.2.1, rfl, rfl, rfl, rfl⟩

theorem close_cases (h : serverStep s (.close j) = some s') :
    (s.sMBSlaveTcpClients j).closing = true ∧ s'.phase = s.phase ∧ s'.iClientNum = s.iClientNum ∧
      s'.sockets = s.sockets.erase (s.sMBSlaveTcpClients j).fd ∧
        s'.sMBSlaveTcpClients =
          (setClient j { s.sMBSlaveTcpClients j with closing := false } s).sMBSlaveTcpClients := by
  rw [serverStep] at h
  split_ifs at h with hc
  obtain rfl := Option.some.inj h
  exact ⟨hc, rfl, rfl, rfl, rfl⟩

/-- A poll task changes the record of its slot, which has been used, and connects nothing. -/
theorem Inv.setClient (hI : Inv s) {c : Client} (hused : j.val < s.iClientNum)
    (hconn : (s.sMBSlaveTcpClients j).xSocketConnected = false → c.xSocketConnected = false)
    (hphase : s'.phase = s.phase) (hnum : s'.iClientNum = s.iClientNum)
    (hc : s'.sMBSlaveTcpClients = (TcpServer.setClient j c s).sMBSlaveTcpClients) : Inv s' := by
  constructor
  · intro k hk
    rw [hnum] at hk
    have hne : k ≠ j := fun heq => by subst heq; omega
    rw [hc, setClient_ne _ hne]
    exact hI.unused k hk
  · intro i hi
    obtain ⟨hfree, hle⟩ := hI.free i (hphase ▸ hi)
    refine ⟨?_, hnum ▸ hle⟩
    rw [hc]
    by_cases hij : i = j
    · subst hij
      rw [setClient_same]
      exact hconn hfree
    · rwa [setClient_ne _ hij]

/-- **Every step keeps the invariant.** -/
theorem Inv.step (hI : Inv s) (h : serverStep s e = some s') : Inv s' := by
  cases e with
  | search | acceptFails =>
    obtain ⟨hc, -, hnum, hphase⟩ := search_cases h (by simp)
    refine ⟨?_, fun i hi => ?_⟩
    · rw [hc, hnum]
      exact hI.unused
    · -- a slot that is found free is among the used ones, or the next
      have hfree := hphase i hi
      rw [hc, hnum]
      refine ⟨freeSlot_some hfree, ?_⟩
      by_cases hlt : s.iClientNum < n
      · exact freeSlot_le hfree (hI.unused ⟨s.iClientNum, hlt⟩ le_rfl).1
      · exact (i.isLt.trans_le (not_lt.mp hlt)).le
  | accept fd xRegist =>
    obtain ⟨i, hi, -, hphase, -, hcases⟩ := accept_cases h
    -- the slot found is not behind the next one, so those behind stay unused
    have hle := (hI.free i hi).2
    refine ⟨fun k hk => ?_, fun i hi => by rw [hphase] at hi; cases hi⟩
    obtain ⟨hlt, hnum, ⟨-, hc⟩ | ⟨-, hc⟩⟩ | ⟨hn, hnum, -⟩ := hcases
    · have hki : k ≠ i := fun heq => by subst heq; omega
      have hkn : k ≠ ⟨s.iClientNum, hlt⟩ := fun heq => by subst heq; simp at hk; omega
      rw [hc, registClient_clients, if_neg hkn]
      simpa [hki] using hI.unused k (by omega)
    · have hkn : k ≠ ⟨s.iClientNum, hlt⟩ := fun heq => by subst heq; simp at hk; omega
      rw [hc, setClient_ne _ hkn]
      exact hI.unused k (by omega)
    · exact absurd k.isLt (by omega)
  | recvFails j =>
    obtain ⟨hr, -, hphase, hnum, -, hc⟩ := recvFails_cases h
    refine hI.setClient (lt_of_not_ge fun hge => ?_) (fun _ => rfl) hphase hnum hc
    rw [(hI.unused j hge).2.2.1] at hr
    cases hr
  | close j =>
    obtain ⟨hcl, hphase, hnum, -, hc⟩ := close_cases h
    refine hI.setClient (lt_of_not_ge fun hge => ?_) ?_ hphase hnum hc
    · rw [(hI.unused j hge).2.1] at hcl
      cases hcl
    · exact id

end Keeps

/-! ### Who has a socket -/

/-- **Every open socket has its slot**: the open sockets are those of the slots that have one, each of another slot, and
no connection that is being given up is connected. -/
structure Owned (s : Server n) : Prop where
  socket : ∀ fd, fd ∈ s.sockets ↔ ∃ j, (s.sMBSlaveTcpClients j).Busy ∧ (s.sMBSlaveTcpClients j).fd = fd
  distinct : ∀ j k, (s.sMBSlaveTcpClients j).Busy → (s.sMBSlaveTcpClients k).Busy →
    (s.sMBSlaveTcpClients j).fd = (s.sMBSlaveTcpClients k).fd → j = k
  apart : ∀ j, (s.sMBSlaveTcpClients j).closing = true → (s.sMBSlaveTcpClients j).xSocketConnected = false

/-- The socket is open, and no slot has it. -/
structure Leaked (fd : ℕ) (s : Server n) : Prop where
  isOpen : fd ∈ s.sockets
  lost : ∀ j, (s.sMBSlaveTcpClients j).Busy → (s.sMBSlaveTcpClients j).fd ≠ fd

/-- A connection is put into a slot that can be registered, or into one whose last socket is closed. -/
def NoOverlap (s : Server n) : ServerEvent n → Prop
  | .accept _ xRegist =>
    if s.iClientNum < n then xRegist = true
    else ∀ j, freeSlot s = some j → (s.sMBSlaveTcpClients j).closing = false
  | _ => True

section Sockets

variable {s s' : Server n} {e : ServerEvent n} {fd : ℕ} {j k : Fin n}

theorem Owned.put (h : Owned s) (hfd : fd ∉ s.sockets) (hfree : ¬(s.sMBSlaveTcpClients j).Busy)
    (hs : s'.sockets = insert fd s.sockets) (hconn : (s'.sMBSlaveTcpClients j).xSocketConnected = true)
    (hcl : (s'.sMBSlaveTcpClients j).closing = false) (hj : (s'.sMBSlaveTcpClients j).fd = fd)
    (hother : ∀ k ≠ j, (s'.sMBSlaveTcpClients k).xSocketConnected = (s.sMBSlaveTcpClients k).xSocketConnected ∧
      (s'.sMBSlaveTcpClients k).closing = (s.sMBSlaveTcpClients k).closing ∧
      (s'.sMBSlaveTcpClients k).fd = (s.sMBSlaveTcpClients k).fd) : Owned s' := by
  have hbusy (k : Fin n) (hk : k ≠ j) : (s'.sMBSlaveTcpClients k).Busy ↔ (s.sMBSlaveTcpClients k).Busy := by
    rw [Client.Busy, Client.Busy, (hother k hk).1, (hother k hk).2.1]
  have hopen (k : Fin n) (hk : (s.sMBSlaveTcpClients k).Busy) : (s.sMBSlaveTcpClients k).fd ≠ fd :=
    fun heq => hfd ((h.socket fd).mpr ⟨k, hk, heq⟩)
  have hold (k : Fin n) (hne : k ≠ j) (hk : (s'.sMBSlaveTcpClients k).Busy) :
      (s'.sMBSlaveTcpClients k).fd ≠ (s'.sMBSlaveTcpClients j).fd := by
    rw [hj, (hother k hne).2.2]
    exact hopen k ((hbusy k hne).mp hk)
  constructor
  · -- the new socket is the slot's, the others are where they were
    intro fd'
    rw [hs, Finset.mem_insert, h.socket]
    constructor
    · rintro (rfl | ⟨k, hk, hkfd⟩)
      · exact ⟨j, Or.inl hconn, hj⟩
      · have hne : k ≠ j := fun heq => hfree (heq ▸ hk)
        exact ⟨k, (hbusy k hne).mpr hk, (hother k hne).2.2.trans hkfd⟩
    · rintro ⟨k, hk, hkfd⟩
      by_cases hne : k = j
      · subst hne
        exact Or.inl (hkfd.symm.trans hj)
      · exact Or.inr ⟨k, (hbusy k hne).mp hk, (hother k hne).2.2.symm.trans hkfd⟩
  · -- two slots with one socket: neither is the new one
    intro k m hk hm hkm
    by_cases hkj : k = j <;> by_cases hmj : m = j
    · rw [hkj, hmj]
    · exact absurd (hkj ▸ hkm.symm) (hold m hmj hm)
    · exact absurd (hmj ▸ hkm) (hold k hkj hk)
    · rw [(hother k hkj).2.2, (hother m hmj).2.2] at hkm
      exact h.distinct k m ((hbusy k hkj).mp hk) ((hbusy m hmj).mp hm) hkm
  · intro k hk
    by_cases hkj : k = j
    · rw [hkj, hcl] at hk
      cases hk
    · rw [(hother k hkj).1]
      exact h.apart k ((hother k hkj).2.1 ▸ hk)

theorem Owned.same (h : Owned s) (hs : s'.sockets = s.sockets)
    (hbusy : ∀ k, (s'.sMBSlaveTcpClients k).Busy ↔ (s.sMBSlaveTcpClients k).Busy)
    (hfd : ∀ k, (s'.sMBSlaveTcpClients k).fd = (s.sMBSlaveTcpClients k).fd)
    (hcl : ∀ k, (s'.sMBSlaveTcpClients k).closing = true → (s'.sMBSlaveTcpClients k).xSocketConnected = false) :
    Owned s' := by
  refine ⟨fun fd => ?_, fun j k hj hk hjk => ?_, hcl⟩
  · rw [hs, h.socket]
    exact exists_congr fun k => by rw [hbusy, hfd]
  · rw [hfd, hfd] at hjk
    exact h.distinct j k ((hbusy j).mp hj) ((hbusy k).mp hk) hjk

theorem Owned.close (hO : Owned s) (h : serverStep s (.close j) = some s') : Owned s' := by
  obtain ⟨hcl, -, -, hs, hc⟩ := close_cases h
  have hbusy : (s.sMBSlaveTcpClients j).Busy := Or.inr hcl
  have hfree : ¬(s'.sMBSlaveTcpClients j).Busy := by
    rw [hc, setClient_same]
    simp [Client.Busy, hO.apart j hcl]
  have hother (k : Fin n) (hk : k ≠ j) : s'.sMBSlaveTcpClients k = s.sMBSlaveTcpClients k := by
    rw [hc, setClient_ne _ hk]
  refine ⟨fun fd => ?_, fun k m hk hm hkm => ?_, fun k hk => ?_⟩
  · -- the socket that is closed was in no other slot
    rw [hs, Finset.mem_erase, hO.socket]
    constructor
    · rintro ⟨hne, k, hk, rfl⟩
      have hkj : k ≠ j := fun heq => hne (heq ▸ rfl)
      exact ⟨k, by rwa [hother k hkj], by rw [hother k hkj]⟩
    · rintro ⟨k, hk, rfl⟩
      have hkj : k ≠ j := fun heq => hfree (heq ▸ hk)
      rw [hother k hkj] at hk ⊢
      exact ⟨fun heq => hkj (hO.distinct k j hk hbusy heq), k, hk, rfl⟩
  · have hkj : k ≠ j := fun heq => hfree (heq ▸ hk)
    have hmj : m ≠ j := fun heq => hfree (heq ▸ hm)
    rw [hother k hkj, hother m hmj] at hkm
    exact hO.distinct k m (hother k hkj ▸ hk) (hother m hmj ▸ hm) hkm
  · have hkj : k ≠ j := fun heq => hfree (heq ▸ Or.inr hk)
    rw [hother k hkj] at hk ⊢
    exact hO.apart k hk

/-- **A connection that finds its slot free keeps every socket in its slot.** -/
theorem Owned.step (hI : Inv s) (hO : Owned s) (hok : NoOverlap s e) (h : serverStep s e = some s') : Owned s' := by
  cases e with
  | search | acceptFails =>
    obtain ⟨hc, hs, -, -⟩ := search_cases h (by simp)
    refine hO.same hs ?_ ?_ ?_ <;> rw [hc]
    · exact fun _ => Iff.rfl
    · exact fun _ => rfl
    · exact hO.apart
  | accept fd xRegist =>
    obtain ⟨i, hi, hfd, -, hs, ⟨hlt, -, ⟨-, hc⟩ | ⟨hno, -⟩⟩ | ⟨hn, -, ⟨hnone, -⟩ | ⟨j, hj, hc⟩⟩⟩ := accept_cases h
    · -- the next slot is used for the first time
      obtain ⟨hconn, hcl, -, -⟩ := hI.unused ⟨s.iClientNum, hlt⟩ le_rfl
      have hfree : ¬(s.sMBSlaveTcpClients ⟨s.iClientNum, hlt⟩).Busy := by simp [Client.Busy, hconn, hcl]
      refine hO.put hfd hfree hs ?_ ?_ ?_ fun k hk => ?_ <;> rw [hc, registClient_clients]
      · simp
      · simpa using hcl
      · simp
      · simp [hk]
    · -- it cannot be registered, against the condition
      rw [NoOverlap, if_pos hlt, hno] at hok
      cases hok
    · -- all slots are in use: not so, one has been found free
      obtain ⟨j, hj⟩ := exists_freeSlot (hI.free i hi).1
      rw [hnone] at hj
      cases hj
    · -- a slot is used again, its last socket being closed
      rw [NoOverlap, if_neg (not_lt.mpr hn)] at hok
      have hcl := hok j hj
      have hfree : ¬(s.sMBSlaveTcpClients j).Busy := by simp [Client.Busy, freeSlot_some hj, hcl]
      refine hO.put hfd hfree hs ?_ ?_ ?_ fun k hk => ?_ <;> rw [hc]
      · rw [setClient_same]
      · rw [setClient_same]
        exact hcl
      · rw [setClient_same]
      · rw [setClient_ne _ hk]
        exact ⟨rfl, rfl, rfl⟩
  | recvFails j =>
    obtain ⟨-, hconn, -, -, hs, hc⟩ := recvFails_cases h
    refine hO.same hs ?_ ?_ ?_ <;> rw [hc] <;> intro k <;> by_cases hk : k = j
    · subst hk
      simp [Client.Busy, hconn]
    · rw [setClient_ne _ hk]
    · subst hk
      rw [setClient_same]
    · rw [setClient_ne _ hk]
    · subst hk
      rw [setClient_same]
      exact fun _ => rfl
    · rw [setClient_ne _ hk]
      exact hO.apart k
  | close j => exact hO.close h

/-- **An overlap loses a socket**: the new one, where the slot is not registered, or the last one of the slot. -/
theorem Owned.leak (hI : Inv s) (hO : Owned s) (hbad : ¬NoOverlap s e) (h : serverStep s e = some s') :
    ∃ fd, Leaked fd s' := by
  cases e with
  | search | acceptFails | recvFails | close => exact absurd trivial hbad
  | accept fd xRegist =>
    have hne (j : Fin n) (hj : (s.sMBSlaveTcpClients j).Busy) (hfd : fd ∉ s.sockets) :
        (s.sMBSlaveTcpClients j).fd ≠ fd := fun heq => hfd ((hO.socket fd).mpr ⟨j, hj, heq⟩)
    obtain ⟨i, hi, hfd, -, hs, ⟨hlt, -, ⟨hyes, -⟩ | ⟨-, hc⟩⟩ | ⟨hn, -, ⟨hnone, -⟩ | ⟨j, hj, hc⟩⟩⟩ := accept_cases h
    · rw [NoOverlap, if_pos hlt] at hbad
      exact absurd hyes hbad
    · -- the slot is not registered, and has no place for the new socket
      refine ⟨fd, by rw [hs]; exact Finset.mem_insert_self .., fun j hj => ?_⟩
      rw [hc] at hj ⊢
      by_cases hjn : j = ⟨s.iClientNum, hlt⟩
      · obtain ⟨hconn, hcl, -, -⟩ := hI.unused j (hjn ▸ le_rfl)
        subst hjn
        rw [setClient_same] at hj
        simp [Client.Busy, hconn, hcl] at hj
      · rw [setClient_ne _ hjn] at hj ⊢
        exact hne j hj hfd
    · obtain ⟨j, hj⟩ := exists_freeSlot (hI.free i hi).1
      rw [hnone] at hj
      cases hj
    · have hcl : (s.sMBSlaveTcpClients j).closing = true := by
        by_contra hopen
        rw [NoOverlap, if_neg (not_lt.mpr hn)] at hbad
        refine hbad fun k hk => ?_
        obtain rfl := Option.some.inj (hj.symm.trans hk)
        simpa using hopen
      have hbusy : (s.sMBSlaveTcpClients j).Busy := Or.inr hcl
      have hopen := (hO.socket _).mpr ⟨j, hbusy, rfl⟩
      -- the slot forgets the socket that has not been closed
      refine ⟨(s.sMBSlaveTcpClients j).fd, by rw [hs]; exact Finset.mem_insert_of_mem hopen, fun k hk => ?_⟩
      rw [hc] at hk ⊢
      by_cases hkj : k = j
      · subst hkj
        rw [setClient_same]
        exact (hne k hbusy hfd).symm
      · rw [setClient_ne _ hkj] at hk ⊢
        exact fun heq => hkj (hO.distinct k j hk hbusy heq)

theorem Leaked.lost_setClient (hL : Leaked fd s) {c : Client} (hfd : c.Busy → c.fd ≠ fd) (k : Fin n)
    (hk : ((setClient j c s).sMBSlaveTcpClients k).Busy) : ((setClient j c s).sMBSlaveTcpClients k).fd ≠ fd := by
  by_cases hkj : k = j
  · subst hkj
    rw [setClient_same] at hk ⊢
    exact hfd hk
  · rw [setClient_ne _ hkj] at hk ⊢
    exact hL.lost k hk

/-- **A lost socket stays open.** -/
theorem Leaked.step (hL : Leaked fd s) (h : serverStep s e = some s') : Leaked fd s' := by
  cases e with
  | search | acceptFails =>
    obtain ⟨hc, hs, -, -⟩ := search_cases h (by simp)
    exact ⟨hs ▸ hL.isOpen, hc ▸ hL.lost⟩
  | accept fd' xRegist =>
    obtain ⟨i, -, hfd, -, hs, hcases⟩ := accept_cases h
    -- the new socket is another one, as this one is open
    have hne : fd' ≠ fd := fun heq => hfd (heq ▸ hL.isOpen)
    refine ⟨by rw [hs]; exact Finset.mem_insert_of_mem hL.isOpen, fun k => ?_⟩
    obtain ⟨hlt, -, ⟨-, hc⟩ | ⟨-, hc⟩⟩ | ⟨-, -, ⟨-, hc⟩ | ⟨j, -, hc⟩⟩ := hcases
    · rw [hc, registClient_clients]
      by_cases hk : k = ⟨s.iClientNum, hlt⟩
      · simpa [hk] using fun _ => hne
      · simpa [hk, Client.Busy] using hL.lost k
    · rw [hc]
      exact hL.lost_setClient (fun _ => hne) k
    · rw [hc]
      exact hL.lost k
    · rw [hc]
      exact hL.lost_setClient (fun _ => hne) k
  | recvFails j =>
    obtain ⟨-, hconn, -, -, hs, hc⟩ := recvFails_cases h
    refine ⟨hs ▸ hL.isOpen, fun k => ?_⟩
    rw [hc]
    refine hL.lost_setClient ?_ k
    exact fun _ => hL.lost j (Or.inl hconn)
  | close j =>
    obtain ⟨hcl, -, -, hs, hc⟩ := close_cases h
    have hne := hL.lost j (Or.inr hcl)
    refine ⟨by rw [hs]; exact Finset.mem_erase.mpr ⟨hne.symm, hL.isOpen⟩, fun k => ?_⟩
    rw [hc]
    refine hL.lost_setClient ?_ k
    exact fun _ => hne

theorem Leaked.run {bs : List (ServerEvent n)} (hL : Leaked fd s) (h : run serverStep s bs = some s') : Leaked fd s' :=
  run_induction hL (fun _ _ _ hL h => hL.step h) h

theorem Leaked.not_owned (hL : Leaked fd s) : ¬Owned s := by
  intro hO
  obtain ⟨j, hj, hfd⟩ := (hO.socket fd).mp hL.isOpen
  exact hL.lost j hj hfd

theorem Owned.card_le (hO : Owned s) : s.sockets.card ≤ n := by
  have hsub : s.sockets ⊆ Finset.univ.image fun j => (s.sMBSlaveTcpClients j).fd := by
    intro fd hfd
    obtain ⟨j, -, rfl⟩ := (hO.socket fd).mp hfd
    exact Finset.mem_image_of_mem _ (Finset.mem_univ j)
  calc s.sockets.card ≤ (Finset.univ.image fun j => (s.sMBSlaveTcpClients j).fd).card := Finset.card_le_card hsub
    _ ≤ (Finset.univ : Finset (Fin n)).card := Finset.card_image_le
    _ = n := by rw [Finset.card_univ, Fintype.card_fin]

theorem inv_init : Inv (vMBSlaveTcpServerTask n) :=
  ⟨fun _ _ => ⟨rfl, rfl, rfl, rfl⟩, nofun⟩

theorem owned_init : Owned (vMBSlaveTcpServerTask n) := by
  have hfree (j : Fin n) : ¬((vMBSlaveTcpServerTask n).sMBSlaveTcpClients j).Busy := by
    simp [Client.Busy, vMBSlaveTcpServerTask]
  refine ⟨fun fd => ?_, fun j k hj => absurd hj (hfree j), nofun⟩
  exact iff_of_false (Finset.notMem_empty fd) fun ⟨j, hj, _⟩ => hfree j hj

/-- **No socket is lost in a run exactly when no connection is put into a slot that is being given up, and every slot
could be registered when it was first used**: then every open socket is that of one slot, and there are no more of them
than slots.  Otherwise one stays open in whatever follows. -/
theorem sockets_owned_iff {as : List (ServerEvent n)} (h : run serverStep (vMBSlaveTcpServerTask n) as = some s) :
    (Owned s ↔ Meets serverStep NoOverlap (vMBSlaveTcpServerTask n) as) ∧ (Owned s → s.sockets.card ≤ n) ∧
      (¬Owned s → ∃ fd, ∀ bs s', run serverStep s bs = some s' → Leaked fd s') := by
  have keeps (t : Server n) (e : ServerEvent n) (t' : Server n) (hP : Inv t ∧ Owned t) (hok : NoOverlap t e)
      (hs : serverStep t e = some t') : Inv t' ∧ Owned t' := ⟨hP.1.step hs, hP.2.step hP.1 hok hs⟩
  have hmeets (hm : Meets serverStep NoOverlap (vMBSlaveTcpServerTask n) as) : Owned s :=
    (Meets.run_induction keeps ⟨inv_init, owned_init⟩ hm h).2
  -- a step that does not meet the condition loses a socket for good
  have hleak (hm : ¬Meets serverStep NoOverlap (vMBSlaveTcpServerTask n) as) : ∃ fd, Leaked fd s := by
    refine not_meets_run (I := fun t => ∃ fd, Leaked fd t) keeps (fun t e t' hP hbad hs => ?_)
      (fun t e t' hL hs => ?_) ⟨inv_init, owned_init⟩ hm h
    · exact hP.2.leak hP.1 hbad hs
    · exact hL.imp fun _ hL => hL.step hs
  refine ⟨⟨fun hO => ?_, hmeets⟩, Owned.card_le, fun hO => ?_⟩
  · by_contra hm
    obtain ⟨fd, hL⟩ := hleak hm
    exact hL.not_owned hO
  · obtain ⟨fd, hL⟩ := hleak fun hm => hO (hmeets hm)
    exact ⟨fd, fun bs s' hr => hL.run hr⟩

/-- One slot: a connection comes and goes, and while the second one is being given up a third one gets its slot. -/
def overlapRun : List (ServerEvent 1) :=
  [.search, .accept 5 true, .recvFails 0, .close 0, .search, .accept 5 true, .recvFails 0, .search, .accept 6 true,
    .close 0]

theorem sockets_owned_iff_overlapRun :
    ∃ s, run serverStep (vMBSlaveTcpServerTask 1) overlapRun = some s ∧ ¬Owned s ∧
      ∃ fd, ∀ bs s', run serverStep s bs = some s' → Leaked fd s' := by
  obtain ⟨s, hs, hopen, hfd⟩ : ∃ s, run serverStep (vMBSlaveTcpServerTask 1) overlapRun = some s ∧ 5 ∈ s.sockets ∧
      ∀ j, (s.sMBSlaveTcpClients j).fd ≠ 5 := by
    refine ⟨_, rfl, ?_, ?_⟩ <;> decide
  have hno : ¬Owned s := fun hO => by
    obtain ⟨j, -, hj⟩ := (hO.socket 5).mp hopen
    exact hfd j hj
  exact ⟨s, hs, hno, (sockets_owned_iff hs).2.2 hno⟩

end Sockets

/-! ### Who has the callbacks -/

/-- Every slot that has a poll task has the callbacks. -/
def CallbacksSet (s : Server n) : Prop :=
  ∀ k, (s.sMBSlaveTcpClients k).registered = true → (s.sMBSlaveTcpClients k).pvMBSlaveCallback = true

/-- A slot is registered only when no slot before it is free. -/
def InOrder (s : Server n) : ServerEvent n → Prop
  | .accept iSocketClient xRegist =>
    ∀ i : Fin n, s.phase = .accepting i → iSocketClient ∉ s.sockets → xRegist = true → s.iClientNum < n →
      i.val = s.iClientNum
  | _ => True

section Callbacks

variable {s s' : Server n} {e : ServerEvent n}

theorem CallbacksSet.same (h : CallbacksSet s)
    (hc : ∀ k, (s'.sMBSlaveTcpClients k).registered = (s.sMBSlaveTcpClients k).registered ∧
      (s'.sMBSlaveTcpClients k).pvMBSlaveCallback = (s.sMBSlaveTcpClients k).pvMBSlaveCallback) : CallbacksSet s' := by
  intro k hk
  rw [(hc k).2]
  exact h k ((hc k).1 ▸ hk)

/-- **A step sets the callbacks of the slot it registers exactly when that slot is the first free one.** -/
theorem callbacks_step (hI : Inv s) (hC : CallbacksSet s) :
    InOrder s e ↔ ∀ s', serverStep s e = some s' → CallbacksSet s' := by
  have put (s' : Server n) (j : Fin n) (c : Client) (hc : s'.sMBSlaveTcpClients = (setClient j c s).sMBSlaveTcpClients)
      (hr : c.registered = (s.sMBSlaveTcpClients j).registered)
      (hp : c.pvMBSlaveCallback = (s.sMBSlaveTcpClients j).pvMBSlaveCallback) : CallbacksSet s' := by
    refine hC.same fun k => ?_
    rw [hc]
    by_cases hk : k = j
    · subst hk
      rw [setClient_same]
      exact ⟨hr, hp⟩
    · rw [setClient_ne _ hk]
      exact ⟨rfl, rfl⟩
  cases e with
  | search | acceptFails =>
    refine iff_of_true trivial fun s' h => hC.same fun k => ?_
    rw [(search_cases h (by simp)).1]
    exact ⟨rfl, rfl⟩
  | recvFails j => exact iff_of_true trivial fun s' h => put s' j _ (recvFails_cases h).2.2.2.2.2 rfl rfl
  | close j => exact iff_of_true trivial fun s' h => put s' j _ (close_cases h).2.2.2.2 rfl rfl
  | accept fd xRegist =>
    constructor
    · intro hok s' h
      obtain ⟨i, hi, hfd, -, -, ⟨hlt, -, ⟨hyes, hc⟩ | ⟨-, hc⟩⟩ | ⟨-, -, ⟨-, hc⟩ | ⟨j, -, hc⟩⟩⟩ := accept_cases h
      · intro k
        rw [hc, registClient_clients]
        -- the callbacks go to the slot found, the poll task to the next one
        have hik : i = ⟨s.iClientNum, hlt⟩ := Fin.ext (hok i hi hfd hyes hlt)
        by_cases hk : k = i
        · simp [hk]
        · simpa [hk, ← hik] using hC k
      · exact put s' _ _ hc rfl rfl
      · exact hC.same fun k => by rw [hc]; exact ⟨rfl, rfl⟩
      · exact put s' j _ hc rfl rfl
    · intro hall i hi hfd hyes hlt
      have hs : serverStep s (.accept fd xRegist) = some (registClient i ⟨s.iClientNum, hlt⟩ fd true
          { s with phase := .looking, sockets := insert fd s.sockets }) := by
        simp [serverStep, hi, hfd, hyes, hlt]
      have hset := hall _ hs ⟨s.iClientNum, hlt⟩
      rw [registClient_clients] at hset
      -- otherwise the next slot is left without them
      have hnew := (hI.unused ⟨s.iClientNum, hlt⟩ le_rfl).2.2.2
      have hik : (⟨s.iClientNum, hlt⟩ : Fin n) = i := by simpa [hnew] using hset
      rw [← hik]

/-- One slot is always the first. -/
theorem inOrder_one (h1 : n ≤ 1) (s : Server n) (e : ServerEvent n) : InOrder s e := by
  cases e with
  | accept fd xRegist =>
    intro i _ _ _ hlt
    omega
  | _ => trivial

/-- **In every state of a run every slot with a poll task has the callbacks, exactly when every slot was the first free
one when it was first used**: a client that has left its slot before the slots have all been used takes them from the
next slot.  With one slot they are always there. -/
theorem callbacks_iff (as : List (ServerEvent n)) :
    (Safe serverStep CallbacksSet (vMBSlaveTcpServerTask n) as ↔
      Meets serverStep InOrder (vMBSlaveTcpServerTask n) as) ∧
      (n ≤ 1 → Safe serverStep CallbacksSet (vMBSlaveTcpServerTask n) as) := by
  have hiff : Safe serverStep CallbacksSet (vMBSlaveTcpServerTask n) as ↔
      Meets serverStep InOrder (vMBSlaveTcpServerTask n) as := by
    refine safe_iff_meets (I := Inv) (A := fun _ _ => True) (fun s e s' hI _ _ h => hI.step h)
      (fun s e hI _ hC => callbacks_step hI hC) meets_true inv_init fun k hk => ?_
    cases hk
  exact ⟨hiff, fun h1 => hiff.mpr (meets_true.mono fun s e _ => inOrder_one h1 s e)⟩

end Callbacks

end GreeIntense.Slave.TcpServer
