import GreeIntense.Control.Settings

/-!
# How the fresh air is shared

The controller has a set point for the fresh air of the plant and one for each roof unit, and a copy of the
first in two words of the `BMS`.  Three functions share it anew: `vSystem_UnitErr` when units come and go,
`vSystem_SetFreAir` when the building management system writes the two words, and `vSystem_FreshFreAir`.

`FreAir` is what they have to do with, and `FreAir.step` what they do to it; `freAirStep_freAir` says that the
controller follows it.  The sharing is an invariant of `FreAir.step` (`FreAir.Good.step`).
-/

namespace GreeIntense.Control

/-! ### The sharing -/

/-- The set points, and which units can be used. -/
@[ext] structure FreAir where
  ulFreAirSet_Vol : ULONG
  usFreAirSet_Vol_H : USHORT
  usFreAirSet_Vol_L : USHORT
  usFreAirSet_Vol : Fin MODULAR_ROOF_NUM → USHORT
  usable : Fin MODULAR_ROOF_NUM → Bool

namespace FreAir

variable (a : FreAir)

def usableUnits : List (Fin MODULAR_ROOF_NUM) := units.filter a.usable

/-- The sum of the set points of the usable units. -/
def given : ℕ := (a.usableUnits.map fun n => (a.usFreAirSet_Vol n).toNat).sum

/-- **The fresh air is shared**: no usable unit is given more than it can, together they are given all but a
rounding, the whole is what so many units can, and the two words are the whole. -/
structure Shared : Prop where
  unit_le : ∀ n, a.usable n = true → (a.usFreAirSet_Vol n).toNat ≤ MODULAR_MAX_FRE_AIR_VOL
  given_le : a.given ≤ a.ulFreAirSet_Vol.toNat
  loss_lt : a.ulFreAirSet_Vol.toNat < a.given + a.usableUnits.length
  total_le : a.ulFreAirSet_Vol.toNat ≤ min 130000 (MODULAR_MAX_FRE_AIR_VOL * a.usableUnits.length)
  words : VolumeOf a.ulFreAirSet_Vol a.usFreAirSet_Vol_H a.usFreAirSet_Vol_L

/-- The invariant: what holds without a usable unit too, and the sharing where there is one. -/
structure Good : Prop where
  total_le : a.ulFreAirSet_Vol.toNat ≤ 130000
  words : VolumeOf a.ulFreAirSet_Vol a.usFreAirSet_Vol_H a.usFreAirSet_Vol_L
  shared : a.usableUnits ≠ [] → a.Shared

/-- The words of the whole are written. -/
def write : FreAir :=
  { a with
    usFreAirSet_Vol_L := (a.ulFreAirSet_Vol % 65535).setWidth 16
    usFreAirSet_Vol_H := (a.ulFreAirSet_Vol / 65535).setWidth 16 }

def give (n : Fin MODULAR_ROOF_NUM) (usVol : USHORT) : FreAir :=
  { a with usFreAirSet_Vol := Function.update a.usFreAirSet_Vol n usVol }

/-- The only usable unit takes the whole, up to what it can. -/
def giveOne (n : Fin MODULAR_ROOF_NUM) : FreAir :=
  if a.ulFreAirSet_Vol > BitVec.ofNat 32 MODULAR_MAX_FRE_AIR_VOL then
    write { a.give n (BitVec.ofNat 16 MODULAR_MAX_FRE_AIR_VOL) with
      ulFreAirSet_Vol := BitVec.ofNat 32 MODULAR_MAX_FRE_AIR_VOL }
  else a.give n (a.ulFreAirSet_Vol.setWidth 16)

/-- All units take the same. -/
def giveAll : FreAir :=
  { a with usFreAirSet_Vol := fun _ => (a.ulFreAirSet_Vol / BitVec.ofNat 32 MODULAR_ROOF_NUM).setWidth 16 }

/-- The fresh air is shared anew. -/
def share : FreAir :=
  match a.usableUnits.getLast? with
  | none => a
  | some n => if a.usableUnits.length < MODULAR_ROOF_NUM then a.giveOne n else a.giveAll

/-- As `share`, with the whole and its words left as they are. -/
def fresh : FreAir := { a with usFreAirSet_Vol := a.share.usFreAirSet_Vol }

end FreAir

/-- An event: units come and go; the building management system writes the words; the fresh air is refreshed. -/
inductive FreAirEvent
  | units (usable : Fin MODULAR_ROOF_NUM → Bool)
  | set (usVol_H usVol_L : USHORT)
  | fresh

def FreAir.step (a : FreAir) : FreAirEvent → FreAir
  | .units usable => { a with usable := usable }.share
  | .set usVol_H usVol_L =>
    let ulVol := volume usVol_H usVol_L
    let a := { a with usFreAirSet_Vol_H := usVol_H, usFreAirSet_Vol_L := usVol_L }
    if ulVol > MAX_FRE_AIR_SET_VOL then a.write
    else if a.ulFreAirSet_Vol = ulVol then a
    else { a with ulFreAirSet_Vol := ulVol }.share
  | .fresh => a.fresh

section Invariant

variable {a : FreAir}

namespace FreAir

theorem mem_usableUnits {n : Fin MODULAR_ROOF_NUM} : n ∈ a.usableUnits ↔ a.usable n = true := by
  rw [usableUnits, List.mem_filter]
  exact and_iff_right (List.mem_finRange n)

theorem usableUnits_length_le : a.usableUnits.length ≤ MODULAR_ROOF_NUM :=
  (List.length_filter_le _ _).trans (List.length_finRange).le

theorem given_const {v : USHORT} (h : ∀ n, a.usable n = true → a.usFreAirSet_Vol n = v) :
    a.given = a.usableUnits.length * v.toNat := by
  have hmap : a.usableUnits.map (fun n => (a.usFreAirSet_Vol n).toNat) = a.usableUnits.map fun _ => v.toNat :=
    List.map_congr_left fun n hn => by rw [h n (mem_usableUnits.mp hn)]
  rw [given, hmap, List.map_const', List.sum_replicate_nat]

theorem write_words (h : a.ulFreAirSet_Vol.toNat ≤ 130000) :
    VolumeOf a.write.ulFreAirSet_Vol a.write.usFreAirSet_Vol_H a.write.usFreAirSet_Vol_L := by
  refine (volumeOf_words a.ulFreAirSet_Vol).mpr ?_
  rw [BitVec.lt_def, quotient_toNat]
  show a.ulFreAirSet_Vol.toNat / 65535 < 65536
  omega

theorem only_usable {n : Fin MODULAR_ROOF_NUM} (hl : a.usableUnits.getLast? = some n)
    (h : a.usableUnits.length < MODULAR_ROOF_NUM) : a.usableUnits = [n] := by
  cases hu : a.usableUnits with
  | nil => simp [hu] at hl
  | cons m ms =>
    rw [hu] at hl h
    have hlt : ms.length + 1 < 2 := h
    have hms : ms = [] := List.length_eq_zero_iff.mp (by omega)
    subst hms
    simpa using hl

theorem shared_const {v : USHORT} (hv : ∀ n, a.usable n = true → a.usFreAirSet_Vol n = v)
    (hle : v.toNat ≤ MODULAR_MAX_FRE_AIR_VOL) (h1 : a.usableUnits.length * v.toNat ≤ a.ulFreAirSet_Vol.toNat)
    (h2 : a.ulFreAirSet_Vol.toNat < a.usableUnits.length * v.toNat + a.usableUnits.length)
    (h3 : a.ulFreAirSet_Vol.toNat ≤ 130000) (hw : VolumeOf a.ulFreAirSet_Vol a.usFreAirSet_Vol_H a.usFreAirSet_Vol_L)
    (h4 : a.ulFreAirSet_Vol.toNat ≤ MODULAR_MAX_FRE_AIR_VOL * a.usableUnits.length) : a.Shared where
  unit_le n hn := by rw [hv n hn]; exact hle
  given_le := by rw [given_const hv]; exact h1
  loss_lt := by rw [given_const hv]; exact h2
  total_le := le_min h3 h4
  words := hw

theorem giveOne_good {n : Fin MODULAR_ROOF_NUM} (hu : a.usableUnits = [n]) (ht : a.ulFreAirSet_Vol.toNat ≤ 130000)
    (hw : VolumeOf a.ulFreAirSet_Vol a.usFreAirSet_Vol_H a.usFreAirSet_Vol_L) : (a.giveOne n).Good := by
  have honly : ∀ m, a.usable m = true → m = n := by
    intro m hm
    have hmem := mem_usableUnits.mpr hm
    rw [hu] at hmem
    exact List.mem_singleton.mp hmem
  have hgive (v : USHORT) : ∀ m, a.usable m = true → Function.update a.usFreAirSet_Vol n v m = v := by
    intro m hm
    rw [honly m hm, Function.update_self]
  have hlen : a.usableUnits.length = 1 := by rw [hu]; rfl
  have hmax : (BitVec.ofNat 32 MODULAR_MAX_FRE_AIR_VOL).toNat = 65000 := rfl
  unfold giveOne
  split
  · -- more than one unit can take: it takes its most, and the whole is lowered to it
    set b : FreAir := { a.give n (BitVec.ofNat 16 MODULAR_MAX_FRE_AIR_VOL) with
      ulFreAirSet_Vol := BitVec.ofNat 32 MODULAR_MAX_FRE_AIR_VOL } with hb
    have hwords := write_words (a := b) (by rw [hb, hmax]; omega)
    have hl : b.write.usableUnits.length = 1 := hlen
    refine ⟨?_, hwords, fun _ =>
      shared_const (v := BitVec.ofNat 16 MODULAR_MAX_FRE_AIR_VOL) (hgive _) ?_ ?_ ?_ ?_ hwords ?_⟩
    · show 65000 ≤ 130000
      omega
    · exact le_rfl
    · rw [hl]
      exact le_rfl
    · rw [hl]
      show 65000 < 1 * 65000 + 1
      omega
    · show 65000 ≤ 130000
      omega
    · rw [hl]
      exact le_rfl
  · rename_i hle
    have hle' : a.ulFreAirSet_Vol.toNat ≤ 65000 := by
      have h := BitVec.not_lt.mp hle
      rwa [BitVec.le_def, hmax] at h
    have hv : (a.ulFreAirSet_Vol.setWidth 16).toNat = a.ulFreAirSet_Vol.toNat := by
      rw [BitVec.toNat_setWidth]
      omega
    have hl : (a.give n (a.ulFreAirSet_Vol.setWidth 16)).usableUnits.length = 1 := hlen
    refine ⟨ht, hw, fun _ => shared_const (v := a.ulFreAirSet_Vol.setWidth 16) (hgive _) ?_ ?_ ?_ ht hw ?_⟩
    · rw [hv]
      exact hle'
    · rw [hl, hv, Nat.one_mul]
      exact le_rfl
    · rw [hl, hv, Nat.one_mul]
      exact Nat.lt_succ_self _
    · rw [hl, Nat.mul_one]
      exact hle'

theorem giveAll_good (hu : a.usableUnits.length = MODULAR_ROOF_NUM) (ht : a.ulFreAirSet_Vol.toNat ≤ 130000)
    (hw : VolumeOf a.ulFreAirSet_Vol a.usFreAirSet_Vol_H a.usFreAirSet_Vol_L) : a.giveAll.Good := by
  set v : USHORT := (a.ulFreAirSet_Vol / BitVec.ofNat 32 MODULAR_ROOF_NUM).setWidth 16 with hvv
  have hv : v.toNat = a.ulFreAirSet_Vol.toNat / 2 := by
    rw [hvv, BitVec.toNat_setWidth, BitVec.toNat_udiv]
    show a.ulFreAirSet_Vol.toNat / 2 % 65536 = a.ulFreAirSet_Vol.toNat / 2
    omega
  have hl : a.giveAll.usableUnits.length = 2 := hu
  refine ⟨ht, hw, fun _ => shared_const (v := v) (fun _ _ => rfl) ?_ ?_ ?_ ht hw ?_⟩
  · rw [hv]
    show a.ulFreAirSet_Vol.toNat / 2 ≤ 65000
    omega
  · rw [hl, hv]
    show 2 * (a.ulFreAirSet_Vol.toNat / 2) ≤ a.ulFreAirSet_Vol.toNat
    omega
  · rw [hl, hv]
    show a.ulFreAirSet_Vol.toNat < 2 * (a.ulFreAirSet_Vol.toNat / 2) + 2
    omega
  · rw [hl]
    exact ht

/-- **Sharing anew makes a sharing.** -/
theorem share_good (ht : a.ulFreAirSet_Vol.toNat ≤ 130000)
    (hw : VolumeOf a.ulFreAirSet_Vol a.usFreAirSet_Vol_H a.usFreAirSet_Vol_L) : a.share.Good := by
  unfold share
  cases hl : a.usableUnits.getLast? with
  | none => exact ⟨ht, hw, fun hne => absurd (List.getLast?_eq_none_iff.mp hl) hne⟩
  | some n =>
    dsimp only
    split
    · rename_i h
      exact giveOne_good (only_usable hl h) ht hw
    · rename_i h
      exact giveAll_good (le_antisymm usableUnits_length_le (not_lt.mp h)) ht hw

/-- A whole that the usable units can take is left as it is. -/
theorem share_total
    (h : a.usableUnits ≠ [] → a.ulFreAirSet_Vol.toNat ≤ MODULAR_MAX_FRE_AIR_VOL * a.usableUnits.length) :
    a.fresh = a.share := by
  unfold fresh share
  cases hl : a.usableUnits.getLast? with
  | none => rfl
  | some n =>
    dsimp only
    split
    · rename_i hlt
      have hu := only_usable hl hlt
      have hle := h (by rw [hu]; exact List.cons_ne_nil _ _)
      rw [hu] at hle
      have hnot : ¬a.ulFreAirSet_Vol > BitVec.ofNat 32 MODULAR_MAX_FRE_AIR_VOL := BitVec.not_lt.mpr hle
      rw [giveOne, if_neg hnot]
      rfl
    · rfl

/-- **The sharing is kept**: by every event. -/
theorem Good.step (h : a.Good) (e : FreAirEvent) : (a.step e).Good := by
  cases e with
  | units usable => exact share_good h.total_le h.words
  | fresh =>
    have hfit : a.usableUnits ≠ [] → a.ulFreAirSet_Vol.toNat ≤ MODULAR_MAX_FRE_AIR_VOL * a.usableUnits.length :=
      fun hne => (h.shared hne).total_le.trans (min_le_right _ _)
    show a.fresh.Good
    rw [share_total hfit]
    exact share_good h.total_le h.words
  | set usVol_H usVol_L =>
    have hvol := volumeOf_volume usVol_H usVol_L
    simp only [FreAir.step]
    split
    · -- refused: the words are written back
      have hwords := write_words (a := { a with usFreAirSet_Vol_H := usVol_H, usFreAirSet_Vol_L := usVol_L }) h.total_le
      refine ⟨h.total_le, hwords, ?_⟩
      intro hne
      have hs := h.shared hne
      exact ⟨hs.unit_le, hs.given_le, hs.loss_lt, hs.total_le, hwords⟩
    · rename_i hmax
      split
      · -- the same whole, perhaps in other words
        rename_i heq
        have hwords : VolumeOf a.ulFreAirSet_Vol usVol_H usVol_L := heq ▸ hvol
        refine ⟨h.total_le, hwords, ?_⟩
        intro hne
        have hs := h.shared hne
        exact ⟨hs.unit_le, hs.given_le, hs.loss_lt, hs.total_le, hwords⟩
      · exact share_good (BitVec.not_lt.mp hmax) hvol

/-- **The sharing is kept by every run.** -/
theorem Good.run (h : a.Good) (es : List FreAirEvent) : (es.foldl FreAir.step a).Good := by
  induction es generalizing a with
  | nil => exact h
  | cons e es ih => exact ih (h.step e)

end FreAir

end Invariant

/-! ### The controller -/

def System.freAir (s : System) : FreAir where
  ulFreAirSet_Vol := s.ulFreAirSet_Vol
  usFreAirSet_Vol_H := s.psBMS.usFreAirSet_Vol_H
  usFreAirSet_Vol_L := s.psBMS.usFreAirSet_Vol_L
  usFreAirSet_Vol n := (s.unit n).usFreAirSet_Vol
  usable n := unitUsable s n

/-- A step of the controller: the availability of the units changes and `vSystem_UnitErr` runs; the words are
written and `vSystem_SetFreAir` runs; `vSystem_FreshFreAir` runs with the set point of the controller. -/
inductive FreAirCall
  | unitErr (xStopErrFlag xCommErr : Fin MODULAR_ROOF_NUM → Bool) (l : Locals)
  | setFreAir (usFreAirSet_Vol_H usFreAirSet_Vol_L : USHORT)
  | freshFreAir

/-- The units report what stops them. -/
def reportUnits (xStopErrFlag xCommErr : Fin MODULAR_ROOF_NUM → Bool) (s : System) : System :=
  { s with psModularRoofList := fun n =>
      { s.unit n with xStopErrFlag := xStopErrFlag n, xCommErr := xCommErr n } }

/-- The building management system writes the words. -/
def writeWords (usFreAirSet_Vol_H usFreAirSet_Vol_L : USHORT) (s : System) : System :=
  { s with psBMS := { s.psBMS with
      usFreAirSet_Vol_H := usFreAirSet_Vol_H, usFreAirSet_Vol_L := usFreAirSet_Vol_L } }

def freAirStep (s : System) : FreAirCall → System
  | .unitErr xStopErrFlag xCommErr l => vSystem_UnitErr l (reportUnits xStopErrFlag xCommErr s)
  | .setFreAir usVol_H usVol_L => vSystem_SetFreAir usVol_H usVol_L (writeWords usVol_H usVol_L s)
  | .freshFreAir => vSystem_FreshFreAir s.ulFreAirSet_Vol s

/-- The event of a step. -/
def FreAirCall.event : FreAirCall → FreAirEvent
  | .unitErr xStopErrFlag xCommErr _ => .units fun n => xStopErrFlag n = false ∧ xCommErr n = false
  | .setFreAir usVol_H usVol_L => .set usVol_H usVol_L
  | .freshFreAir => .fresh

section Refinement

variable {s s' : System}

theorem freAir_of_fanless (h : s'.fanless = s.fanless) : s'.freAir = s.freAir := by
  obtain ⟨h1, h2⟩ := Prod.mk.inj (settings_of_kept (kept_of_fanless h))
  have hunit (n : Fin MODULAR_ROOF_NUM) : s'.unit n = s.unit n :=
    congrFun (congrArg UnitSide.psModularRoofList (unitSide_of_fanless h)) n
  refine FreAir.ext (congrArg Settings.ulFreAirSet_Vol h1) (congrArg BMSSettings.usFreAirSet_Vol_H h2)
    (congrArg BMSSettings.usFreAirSet_Vol_L h2) (funext fun n => ?_) (funext fun n => ?_)
  · exact congrArg ModularRoof.usFreAirSet_Vol (hunit n)
  · show unitUsable s' n = unitUsable s n
    rw [unitUsable, unitUsable, hunit n]

theorem setUnit_freAir (n : Fin MODULAR_ROOF_NUM) (u : ModularRoof)
    (hs : u.xStopErrFlag = (s.unit n).xStopErrFlag) (hc : u.xCommErr = (s.unit n).xCommErr) :
    (s.setUnit n u).freAir = s.freAir.give n u.usFreAirSet_Vol := by
  have hunit (m : Fin MODULAR_ROOF_NUM) : (s.setUnit n u).unit m = if m = n then u else s.unit m := unit_setUnit n m u s
  refine FreAir.ext rfl rfl rfl (funext fun m => ?_) (funext fun m => ?_)
  · simp only [System.freAir, FreAir.give, hunit, Function.update_apply]
    split <;> rfl
  · simp only [System.freAir, FreAir.give, unitUsable, hunit]
    split
    · rename_i hm
      rw [hs, hc, hm]
    · rfl

theorem setUnit_freAir_same (n : Fin MODULAR_ROOF_NUM) (u : ModularRoof)
    (hs : u.xStopErrFlag = (s.unit n).xStopErrFlag) (hc : u.xCommErr = (s.unit n).xCommErr)
    (hv : u.usFreAirSet_Vol = (s.unit n).usFreAirSet_Vol) : (s.setUnit n u).freAir = s.freAir := by
  rw [setUnit_freAir n u hs hc, hv]
  exact FreAir.ext rfl rfl rfl (Function.update_eq_self n _) rfl

@[simp] theorem ite_freAir (c : Prop) [Decidable c] (s t : System) :
    (if c then s else t).freAir = if c then s.freAir else t.freAir := apply_ite System.freAir c s t

theorem openUsable_freAir (s : System) : (openUsable s).freAir = s.freAir := by
  unfold openUsable
  split
  · refine foldl_kept System.freAir (fun s n => ?_) _ s
    unfold vModularRoof_SwitchOpen
    dsimp only
    split
    · exact setUnit_freAir_same n _ rfl rfl rfl
    · rfl
  · rfl

theorem setUnitTemps_freAir (usTempSet : USHORT) (s : System) : (setUnitTemps usTempSet s).freAir = s.freAir := by
  refine foldl_kept System.freAir (fun s n => ?_) units s
  exact setUnit_freAir_same n _ rfl rfl rfl

theorem setUnitAmbientIn_freAir (sAmbientIn_T usAmbientIn_H : USHORT) (s : System) :
    (setUnitAmbientIn sAmbientIn_T usAmbientIn_H s).freAir = s.freAir := by
  refine foldl_kept System.freAir (fun s n => ?_) units s
  exact setUnit_freAir_same n _ rfl rfl rfl

theorem usSystem_ChangeEnergyTemp_freAir (s : System) : (usSystem_ChangeEnergyTemp s).2.freAir = s.freAir := by
  unfold usSystem_ChangeEnergyTemp
  split
  · rfl
  · split
    · exact setUnitTemps_freAir _ s
    · rfl

theorem changeOnCompsClosed_freAir (k : ℕ) (s : System) : (changeOnCompsClosed k s).freAir = s.freAir := by
  have hc : (xSystem_UnitCompsClosed s).2.freAir = s.freAir := by
    unfold xSystem_UnitCompsClosed
    split <;> rfl
  unfold changeOnCompsClosed
  split
  · dsimp only
    split
    · exact hc
    · exact hc
  · rfl

theorem vSystem_ChangeUnitRunningMode_freAir (s : System) : (vSystem_ChangeUnitRunningMode s).freAir = s.freAir := by
  have hite (c : Prop) [Decidable c] (k : ℕ) (t u : System) (hu : u.freAir = t.freAir) :
      (if c then registModeChange k t else u).freAir = t.freAir := by
    split
    · rfl
    · exact hu
  unfold vSystem_ChangeUnitRunningMode
  split
  · rfl
  · cases s.eRunningMode with
    | unset => rfl
    | RUN_MODE_FAN => exact hite _ 1 s _ (hite _ 2 s _ rfl)
    | RUN_MODE_WET => exact (hite _ 3 _ _ (hite _ 4 _ _ rfl)).trans (usSystem_ChangeEnergyTemp_freAir s)
    | RUN_MODE_COOL =>
      exact (hite _ 5 _ _ (changeOnCompsClosed_freAir 7 _)).trans (usSystem_ChangeEnergyTemp_freAir s)
    | RUN_MODE_HEAT => exact hite _ 6 _ _ (changeOnCompsClosed_freAir 8 _)

theorem vSystem_UnitCO2PPM_freAir (l : Locals) (s : System) : (vSystem_UnitCO2PPM l s).freAir = s.freAir := by
  have hset (usCO2PPM : USHORT) (s : System) : (setCO2PPM usCO2PPM s).freAir = s.freAir := by
    have hf : (setCO2PPM usCO2PPM s).fanless = System.fanless { s with usCO2PPM := usCO2PPM } := by
      simp [setCO2PPM]
    exact (freAir_of_fanless hf).trans rfl
  simp [vSystem_UnitCO2PPM, hset]

theorem vSystem_UnitTempHumiIn_freAir (l : Locals) (s : System) : (vSystem_UnitTempHumiIn l s).freAir = s.freAir := by
  have hset (sAmbientIn_T usAmbientIn_H : USHORT) (s : System) :
      (setAmbientIn sAmbientIn_T usAmbientIn_H s).freAir = s.freAir := vSystem_ChangeUnitRunningMode_freAir _
  simp [vSystem_UnitTempHumiIn, hset, setUnitAmbientIn_freAir]

theorem setUnitErrFlag_freAir (xUnitErrFlag : Bool) (s : System) :
    (setUnitErrFlag xUnitErrFlag s).freAir = s.freAir := by
  unfold setUnitErrFlag
  dsimp only
  split <;> rfl

theorem setpoint_freAir (n : Fin MODULAR_ROOF_NUM) (v : USHORT) (s : System) :
    (s.setUnit n { s.unit n with usFreAirSet_Vol := v }).freAir = s.freAir.give n v :=
  setUnit_freAir n _ rfl rfl

theorem oneUnitFreAir_freAir (n : Fin MODULAR_ROOF_NUM) (s : System) :
    (oneUnitFreAir n s).freAir = s.freAir.giveOne n := by
  unfold oneUnitFreAir FreAir.giveOne
  by_cases h : s.ulFreAirSet_Vol > BitVec.ofNat 32 MODULAR_MAX_FRE_AIR_VOL
  · have h' : s.freAir.ulFreAirSet_Vol > BitVec.ofNat 32 MODULAR_MAX_FRE_AIR_VOL := h
    rw [if_pos h, if_pos h', ← setpoint_freAir]
    rfl
  · have h' : ¬s.freAir.ulFreAirSet_Vol > BitVec.ofNat 32 MODULAR_MAX_FRE_AIR_VOL := h
    rw [if_neg h, if_neg h', setpoint_freAir]
    rfl

theorem foldl_setpoint (v : USHORT) (list : List (Fin MODULAR_ROOF_NUM)) (s : System) :
    (list.foldl (fun s n => s.setUnit n { s.unit n with usFreAirSet_Vol := v }) s).freAir =
      { s.freAir with usFreAirSet_Vol := fun n => if n ∈ list then v else s.freAir.usFreAirSet_Vol n } := by
  induction list generalizing s with
  | nil => rfl
  | cons m list ih =>
    rw [List.foldl_cons, ih, setpoint_freAir]
    refine FreAir.ext rfl rfl rfl (funext fun n => ?_) rfl
    simp only [FreAir.give, Function.update_apply, List.mem_cons]
    by_cases hm : n = m
    · simp [hm]
    · simp [hm]

theorem setpoint_units (v : USHORT) (s : System) :
    (units.foldl (fun s n => s.setUnit n { s.unit n with usFreAirSet_Vol := v }) s).freAir =
      { s.freAir with usFreAirSet_Vol := fun _ => v } := by
  rw [foldl_setpoint]
  refine FreAir.ext rfl rfl rfl (funext fun n => ?_) rfl
  exact if_pos (List.mem_finRange n)

/-- **The controller shares as `FreAir.share` does.** -/
theorem shareFreAir_freAir (s : System) : (shareFreAir s).freAir = s.freAir.share := by
  have hu : units.filter (unitUsable s) = s.freAir.usableUnits := rfl
  unfold shareFreAir FreAir.share
  rw [hu]
  cases s.freAir.usableUnits.getLast? with
  | none => rfl
  | some n =>
    dsimp only
    split
    · exact oneUnitFreAir_freAir n s
    · exact setpoint_units _ s

theorem vSystem_FreshFreAir_freAir (s : System) :
    (vSystem_FreshFreAir s.ulFreAirSet_Vol s).freAir = s.freAir.fresh := by
  have hu : units.filter (unitUsable s) = s.freAir.usableUnits := rfl
  unfold vSystem_FreshFreAir FreAir.fresh FreAir.share
  rw [hu]
  cases s.freAir.usableUnits.getLast? with
  | none => rfl
  | some n =>
    dsimp only
    split
    · rw [setpoint_freAir]
      unfold FreAir.giveOne
      by_cases h : s.ulFreAirSet_Vol > BitVec.ofNat 32 MODULAR_MAX_FRE_AIR_VOL
      · have h' : s.freAir.ulFreAirSet_Vol > BitVec.ofNat 32 MODULAR_MAX_FRE_AIR_VOL := h
        rw [if_pos h, if_pos h']
        rfl
      · have h' : ¬s.freAir.ulFreAirSet_Vol > BitVec.ofNat 32 MODULAR_MAX_FRE_AIR_VOL := h
        rw [if_neg h, if_neg h']
        rfl
    · exact setpoint_units _ s

theorem vSystem_UnitErr_freAir (l : Locals) (s : System) : (vSystem_UnitErr l s).freAir = s.freAir.share := by
  have halarm (c : Prop) [Decidable c] (s : System) :
      (if c then vSystem_SetAlarm s else vSystem_DelAlarmRequst s).freAir = s.freAir := by
    split
    · exact freAir_of_fanless (vSystem_SetAlarm_fanless s)
    · exact freAir_of_fanless (vSystem_DelAlarmRequst_fanless s)
  have hout (s : System) : (vSystem_UnitTempHumiOut s).freAir = s.freAir := by
    unfold vSystem_UnitTempHumiOut
    dsimp only
    split <;> rfl
  have hair (s : System) : (vSystem_UnitFreAir s).freAir = s.freAir := rfl
  simp only [vSystem_UnitErr]
  rw [setUnitErrFlag_freAir, vSystem_UnitTempHumiIn_freAir, hout, vSystem_UnitCO2PPM_freAir, hair, halarm,
    shareFreAir_freAir, openUsable_freAir]

-- stated for any volume: with the one of the two words the kernel multiplies it out
theorem share_set (ulVol : ULONG) (s : System) :
    (vSystem_ExAirSet_Vol (shareFreAir { s with ulFreAirSet_Vol := ulVol })).freAir =
      { s.freAir with ulFreAirSet_Vol := ulVol }.share := by
  rw [freAir_of_fanless (vSystem_ExAirSet_Vol_fanless _), shareFreAir_freAir]
  rfl

theorem vSystem_SetFreAir_freAir (usVol_H usVol_L : USHORT) (s : System) :
    (vSystem_SetFreAir usVol_H usVol_L (writeWords usVol_H usVol_L s)).freAir =
      s.freAir.step (.set usVol_H usVol_L) := by
  simp only [vSystem_SetFreAir, FreAir.step]
  split
  · rfl
  · by_cases h : s.ulFreAirSet_Vol = volume usVol_H usVol_L
    · have h' : s.freAir.ulFreAirSet_Vol = volume usVol_H usVol_L := h
      have h'' : (writeWords usVol_H usVol_L s).ulFreAirSet_Vol = volume usVol_H usVol_L := h
      rw [if_pos h', if_pos h'']
      rfl
    · have h' : ¬s.freAir.ulFreAirSet_Vol = volume usVol_H usVol_L := h
      have h'' : ¬(writeWords usVol_H usVol_L s).ulFreAirSet_Vol = volume usVol_H usVol_L := h
      rw [if_neg h', if_neg h'', share_set]
      rfl

/-- **The controller follows the machine**: at every step. -/
theorem freAirStep_freAir (s : System) (c : FreAirCall) : (freAirStep s c).freAir = s.freAir.step c.event := by
  cases c with
  | unitErr xStopErrFlag xCommErr l => exact vSystem_UnitErr_freAir l _
  | setFreAir usVol_H usVol_L => exact vSystem_SetFreAir_freAir usVol_H usVol_L s
  | freshFreAir => exact vSystem_FreshFreAir_freAir s

theorem foldl_freAirStep (cs : List FreAirCall) (s : System) :
    (cs.foldl freAirStep s).freAir = (cs.map FreAirCall.event).foldl FreAir.step s.freAir := by
  induction cs generalizing s with
  | nil => rfl
  | cons c cs ih => rw [List.foldl_cons, ih, freAirStep_freAir, List.map_cons, List.foldl_cons]

end Refinement

/-- **The fresh air is shared by the usable units, and the two words are the whole of it**: after every step of
every run, from every state where that holds. -/
theorem freAir_shared (s : System) (h : s.freAir.Good) (cs : List FreAirCall)
    (hu : (cs.foldl freAirStep s).freAir.usableUnits ≠ []) : (cs.foldl freAirStep s).freAir.Shared := by
  have hrun := h.run (cs.map FreAirCall.event)
  rw [← foldl_freAirStep] at hrun
  exact hrun.shared hu

/-- At reset nothing is asked and nothing given. -/
theorem freAir_zero : System.zero.freAir.Good := by
  refine ⟨by decide, rfl, fun _ => ⟨fun _ _ => Nat.zero_le _, by decide, by decide, by decide, rfl⟩⟩

/-- 100000 are asked of two units, of which one then stops. -/
def stopOne : List FreAirCall := [.setFreAir 1 34465, .unitErr (fun n => n = 0) (fun _ => false) ⟨0, 0, 0, 0, 0⟩]

theorem freAir_shared_stopOne :
    (stopOne.foldl freAirStep System.zero).freAir.usableUnits ≠ [] ∧
      (stopOne.foldl freAirStep System.zero).freAir.Shared := by
  have hu : (stopOne.foldl freAirStep System.zero).freAir.usableUnits ≠ [] := by
    rw [foldl_freAirStep]
    decide
  exact ⟨hu, freAir_shared System.zero freAir_zero stopOne hu⟩

end GreeIntense.Control
