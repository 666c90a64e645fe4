import GreeIntense.Control.System
import GreeIntense.Lib.Run

/-!
# Running times (`vSystem_EventPollTask` and `vSystem_PollTmrCallback` in `system.c`)

Every unit and every fan counts the seconds it has run, which are stored, and the hours.  The start-up code computes
the hours of the fans from the stored seconds, in 16 bits, and does not compute those of the units; a tick of the timer
computes them for a device that runs.

* `Device.Counts`: what the two counters are to be after some seconds;
* `counts_tick`: a tick keeps them so;
* `startUp_counts_iff`, `restored_counts_iff`: which stored seconds the start-up code makes them so from;
* `runTime_iff`: along a run they are right exactly where all stored seconds are such.
-/

namespace GreeIntense.Control.RunTime

open Lib.Run eRunningState

abbrev SYSTEM_POLL_TIME_OUT_S : ULONG := 10
abbrev UINT16_MAX : USHORT := 65535
abbrev UINT32_MAX : ULONG := 4294967295

/-- What the two functions use of a `Device`. -/
structure Device where
  eRunningState : eRunningState
  ulRunTime_S : ULONG
  usRunTime_H : USHORT
  deriving DecidableEq

/-- `usRunTime_H` from `ulRunTime_S`, cut to 16 bits. -/
def Device.derive (d : Device) : Device := { d with usRunTime_H := (d.ulRunTime_S / 3600).setWidth 16 }

/-- The test after it. -/
def Device.limit (d : Device) : Device :=
  if d.usRunTime_H ≥ UINT16_MAX then { d with ulRunTime_S := 0, usRunTime_H := 0 } else d

/-- The pass of either loop of `vSystem_PollTmrCallback`. -/
def Device.tick (d : Device) : Device :=
  let d :=
    if d.eRunningState = STATE_RUN ∧ d.ulRunTime_S < UINT32_MAX - SYSTEM_POLL_TIME_OUT_S then
      { d with ulRunTime_S := d.ulRunTime_S + SYSTEM_POLL_TIME_OUT_S }.derive
    else d
  d.limit

/-- The device after `calloc` and the restoration of its seconds. -/
def Device.restored (ulRunTime_S : ULONG) : Device := ⟨STATE_STOP, ulRunTime_S, 0⟩

/-- The pass of the loop over the fans in the start-up code of `vSystem_EventPollTask`. -/
def Device.startUp (d : Device) : Device := d.derive.limit

/-- The devices of the two lists of `System`. -/
structure Devices where
  psModularRoofList : Fin MODULAR_ROOF_NUM → Device
  psExAirFanList : Fin EX_AIR_FAN_NUM → Device

/-- Each pass changes its own device. -/
def vSystem_PollTmrCallback (s : Devices) : Devices where
  psModularRoofList n := (s.psModularRoofList n).tick
  psExAirFanList n := (s.psExAirFanList n).tick

/-- The start-up code: only the fans are in it. -/
def vSystem_EventPollTask_startUp (s : Devices) : Devices :=
  { s with psExAirFanList := fun n => (s.psExAirFanList n).startUp }

/-! ### What the counters are to be -/

/-- After `n` seconds: the hours are whole hours of the seconds, and the seconds are `n`, except that both are 0 at
65535 hours. -/
structure Device.Counts (d : Device) (n : ℕ) : Prop where
  hours : d.usRunTime_H.toNat = d.ulRunTime_S.toNat / 3600
  seconds : if n / 3600 = 65535 then d.ulRunTime_S = 0 ∧ d.usRunTime_H = 0 else d.ulRunTime_S.toNat = n

/-- The hours are those of the seconds, below the limit. -/
structure Device.Good (d : Device) : Prop where
  hours : d.usRunTime_H.toNat = d.ulRunTime_S.toNat / 3600
  below : d.ulRunTime_S.toNat / 3600 < 65535

section Counts

variable {d : Device} {n : ℕ}

theorem derive_hours : d.derive.usRunTime_H.toNat = d.ulRunTime_S.toNat / 3600 % 65536 := by
  have h3600 : (3600 : ULONG).toNat = 3600 := rfl
  rw [Device.derive, BitVec.toNat_setWidth, BitVec.toNat_udiv, h3600]

theorem limit_of_eq (h : d.usRunTime_H.toNat = 65535) : d.limit = { d with ulRunTime_S := 0, usRunTime_H := 0 } := by
  have hmax : d.usRunTime_H = UINT16_MAX := BitVec.eq_of_toNat_eq h
  exact if_pos (BitVec.le_of_eq hmax.symm)

theorem limit_of_ne (h : d.usRunTime_H.toNat ≠ 65535) : d.limit = d := by
  have := d.usRunTime_H.isLt
  have hmax : UINT16_MAX.toNat = 65535 := rfl
  refine if_neg fun hge => h ?_
  have := BitVec.le_def.mp hge
  omega

/-- Counters that are right after fewer hours than 16 bits can hold are below the limit. -/
theorem Device.Counts.good (h : d.Counts n) (hn : n / 3600 < 65536) : d.Good := by
  obtain ⟨hhours, hsec⟩ := h
  refine ⟨hhours, ?_⟩
  split at hsec
  · rw [hsec.1]
    decide
  · omega

/-- **The derivation is right for the hours that 16 bits can hold, and for no others.** -/
theorem derive_limit_counts_iff (hn : d.ulRunTime_S.toNat = n) : d.derive.limit.Counts n ↔ n / 3600 < 65536 := by
  have hh : d.derive.usRunTime_H.toNat = n / 3600 % 65536 := hn ▸ derive_hours
  by_cases hmax : n / 3600 % 65536 = 65535
  · rw [limit_of_eq (hh.trans hmax)]
    constructor
    · rintro ⟨-, hsec⟩
      split at hsec
      · omega
      · have hzero : n = 0 := hsec.symm
        omega
    · intro hlt
      have hzero : (0 : USHORT).toNat = (0 : ULONG).toNat / 3600 := by decide
      refine ⟨hzero, ?_⟩
      rw [if_pos (by omega)]
      exact ⟨rfl, rfl⟩
  · rw [limit_of_ne (by omega)]
    have hsame : d.derive.ulRunTime_S.toNat = n := hn
    constructor
    · rintro ⟨hhours, -⟩
      omega
    · intro hlt
      refine ⟨by omega, ?_⟩
      rw [if_neg (by omega)]
      exact hsame

/-- **A tick keeps the counters right.** -/
theorem counts_tick (h : d.Good) : d.tick.Counts
    (d.ulRunTime_S.toNat + if d.eRunningState = STATE_RUN then SYSTEM_POLL_TIME_OUT_S.toNat else 0) := by
  obtain ⟨hhours, hbelow⟩ := h
  have hten : SYSTEM_POLL_TIME_OUT_S.toNat = 10 := rfl
  have hroom : d.ulRunTime_S < UINT32_MAX - SYSTEM_POLL_TIME_OUT_S := by
    have hmax : (UINT32_MAX - SYSTEM_POLL_TIME_OUT_S).toNat = 4294967285 := rfl
    rw [BitVec.lt_def]
    omega
  by_cases hrun : d.eRunningState = STATE_RUN
  · have hadd : (d.ulRunTime_S + SYSTEM_POLL_TIME_OUT_S).toNat = d.ulRunTime_S.toNat + 10 := by
      rw [BitVec.toNat_add, hten]
      omega
    rw [Device.tick, if_pos ⟨hrun, hroom⟩, if_pos hrun, hten]
    exact (derive_limit_counts_iff (d := { d with ulRunTime_S := _ }) hadd).mpr (by omega)
  · rw [Device.tick, if_neg fun hc => hrun hc.1, if_neg hrun, limit_of_ne (by omega)]
    refine ⟨hhours, ?_⟩
    rw [if_neg (by omega)]
    rfl

theorem startUp_counts_iff (ulRunTime_S : ULONG) :
    (Device.restored ulRunTime_S).startUp.Counts ulRunTime_S.toNat ↔ ulRunTime_S.toNat / 3600 < 65536 :=
  derive_limit_counts_iff rfl

theorem restored_counts_iff (ulRunTime_S : ULONG) :
    (Device.restored ulRunTime_S).Counts ulRunTime_S.toNat ↔ ulRunTime_S.toNat < 3600 := by
  have hzero : (Device.restored ulRunTime_S).usRunTime_H.toNat = 0 := rfl
  have hsame : (Device.restored ulRunTime_S).ulRunTime_S = ulRunTime_S := rfl
  constructor
  · rintro ⟨hhours, -⟩
    rw [hzero, hsame] at hhours
    omega
  · intro hlt
    refine ⟨by rw [hzero, hsame]; omega, ?_⟩
    rw [if_neg (by omega), hsame]

end Counts

/-! ### Runs -/

/-- The controller starts with the seconds that are stored, or the timer ticks with the devices running or not. -/
inductive RunTimeEvent
  | restart (units : Fin MODULAR_ROOF_NUM → ULONG) (fans : Fin EX_AIR_FAN_NUM → ULONG)
  | tick (units : Fin MODULAR_ROOF_NUM → eRunningState) (fans : Fin EX_AIR_FAN_NUM → eRunningState)

def Devices.running (s : Devices) (units : Fin MODULAR_ROOF_NUM → eRunningState)
    (fans : Fin EX_AIR_FAN_NUM → eRunningState) : Devices where
  psModularRoofList n := { s.psModularRoofList n with eRunningState := units n }
  psExAirFanList n := { s.psExAirFanList n with eRunningState := fans n }

def Devices.after (s : Devices) : RunTimeEvent → Devices
  | .restart units fans =>
    vSystem_EventPollTask_startUp ⟨fun n => Device.restored (units n), fun n => Device.restored (fans n)⟩
  | .tick units fans => vSystem_PollTmrCallback (s.running units fans)

def runTimeStep (s : Devices) (e : RunTimeEvent) : Option Devices := some (s.after e)

/-- The seconds of a device after a tick. -/
def Device.next (d : Device) (state : Control.eRunningState) : ℕ :=
  d.ulRunTime_S.toNat + if state = STATE_RUN then SYSTEM_POLL_TIME_OUT_S.toNat else 0

/-- **After the event the counters of every device are right**: of the stored seconds, or of those before a tick and
of the tick. -/
def RunTimeRight (s : Devices) (e : RunTimeEvent) : Prop :=
  match e with
  | .restart units fans => (∀ n, ((s.after e).psModularRoofList n).Counts (units n).toNat) ∧
      ∀ n, ((s.after e).psExAirFanList n).Counts (fans n).toNat
  | .tick units fans => (∀ n, ((s.after e).psModularRoofList n).Counts ((s.psModularRoofList n).next (units n))) ∧
      ∀ n, ((s.after e).psExAirFanList n).Counts ((s.psExAirFanList n).next (fans n))

/-- Less than an hour is stored for every unit, and for every fan no more than 65535 whole hours. -/
def RunTimeEvent.Storable : RunTimeEvent → Prop
  | .restart units fans => (∀ n, (units n).toNat < 3600) ∧ ∀ n, (fans n).toNat / 3600 < 65536
  | .tick _ _ => True

structure Devices.Good (s : Devices) : Prop where
  units : ∀ n, (s.psModularRoofList n).Good
  fans : ∀ n, (s.psExAirFanList n).Good

section Runs

variable {s : Devices} {e : RunTimeEvent}

theorem Device.Good.running {d : Device} (h : d.Good) (state : Control.eRunningState) :
    Device.Good { d with eRunningState := state } :=
  ⟨h.hours, h.below⟩

theorem Device.Good.next_lt {d : Device} (h : d.Good) (state : Control.eRunningState) :
    d.next state / 3600 < 65536 := by
  have hten : SYSTEM_POLL_TIME_OUT_S.toNat = 10 := rfl
  have := h.below
  unfold Device.next
  split <;> omega

theorem Devices.Good.right_iff (h : s.Good) (e : RunTimeEvent) : RunTimeRight s e ↔ e.Storable := by
  cases e with
  | restart units fans =>
    exact and_congr (forall_congr' fun n => restored_counts_iff _) (forall_congr' fun n => startUp_counts_iff _)
  | tick units fans =>
    refine iff_of_true ⟨fun n => ?_, fun n => ?_⟩ trivial
    · exact counts_tick ((h.units n).running (units n))
    · exact counts_tick ((h.fans n).running (fans n))

theorem Devices.Good.after (h : s.Good) (hs : e.Storable) : (s.after e).Good := by
  have hright := (h.right_iff e).mpr hs
  cases e with
  | restart units fans =>
    refine ⟨fun n => (hright.1 n).good ?_, fun n => (hright.2 n).good (hs.2 n)⟩
    have := hs.1 n
    omega
  | tick units fans =>
    exact ⟨fun n => (hright.1 n).good ((h.units n).next_lt _), fun n => (hright.2 n).good ((h.fans n).next_lt _)⟩

end Runs

/-- The devices as `calloc` leaves them. -/
def cleared : Devices := ⟨fun _ => Device.restored 0, fun _ => Device.restored 0⟩

theorem cleared_good : cleared.Good := by
  have hdev : (Device.restored 0).Good := ⟨by decide, by decide⟩
  exact ⟨fun _ => hdev, fun _ => hdev⟩

/-- **Along every run** of restarts and ticks the counters are right after each event exactly where what the restarts
find stored is less than an hour for the units and at most 65535 whole hours for the fans. -/
theorem runTime_iff (es : List RunTimeEvent) :
    Meets runTimeStep RunTimeRight cleared es ↔ ∀ e ∈ es, e.Storable := by
  have htotal (s : Devices) (e : RunTimeEvent) : ∃ s', runTimeStep s e = some s' := ⟨s.after e, rfl⟩
  rw [← meets_events htotal]
  refine (meets_congr ?_ (fun s e hg => (hg.right_iff e).symm) cleared_good).symm
  intro s e s' hg hs hstep
  obtain rfl := Option.some.inj hstep
  exact hg.after hs

/-- An hour is stored for a unit: after the restart it has run 3600 seconds and no hour. -/
theorem unit_hour_lost : ¬Meets runTimeStep RunTimeRight cleared [.restart (fun _ => 3600) fun _ => 0] := by
  rintro ⟨⟨hunits, -⟩, -⟩
  exact absurd (hunits 0).hours (by decide)

end GreeIntense.Control.RunTime
