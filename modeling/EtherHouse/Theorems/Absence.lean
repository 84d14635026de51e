import EtherHouse.Theorems.Hook

/-!
# Absence

What the absence branch of `loop` does to a target that comes back while the house is switched off.
-/

namespace EtherHouse

/-! ## Sightings during the branch -/

/-- The packet loop was given a frame from an address of the local network. -/
def fromLocal (d : Device) (past : Trace) : Bool :=
  match openLoops past with
  | [] => false
  | (frame, _) :: _ => isIpLocal d.ether (sourceAddress frame)

/-- The sniffer's callback that worked last was called for such a frame. -/
def calledForLocal : Trace → Bool
  | [] => false
  | (.enter .sniffer, d) :: past => fromLocal d past
  | _ :: past => calledForLocal past

/-- Since the house was switched off: the target's address as the last callback for a frame from a local address left it. -/
def lastSighting : Trace → Option Ip
  | [] => none
  | (.toggled _ false, _) :: _ => none
  | (.leave .sniffer, d) :: past => if calledForLocal past then some d.targetIp else lastSighting past
  | _ :: past => lastSighting past

/-- A target that has come back is not forgotten: its address is held and saved, and is reset only if it has not come back. -/
structure Remembered (d : Device) (past : Trace) : Prop where
  kept : ∀ ip, lastSighting past = some ip → d.targetIp = ip ∧ readCells d.eeprom = eepromRecord d.state ip
  reset : d.targetIp = allOnes → lastSighting past = none

instance (d : Device) (past : Trace) : Decidable (Remembered d past) :=
  decidable_of_iff
    ((lastSighting past).all (fun ip => decide (d.targetIp = ip ∧ readCells d.eeprom = eepromRecord d.state ip)) = true ∧
      (d.targetIp = allOnes → lastSighting past = none))
    ⟨fun h => ⟨fun ip hip => by simpa [hip] using h.1, h.2⟩,
      fun h => ⟨Option.all_eq_true _ _ |>.mpr fun ip hip => decide_eq_true (h.kept ip hip), h.reset⟩⟩

/-- The branch ends with the address reset, whatever has been seen. -/
theorem remembered_forgetIp_iff (d : Device) (past : Trace) : Remembered (forgetIp d) past ↔ lastSighting past = none := by
  constructor
  · intro h
    exact h.reset rfl
  · intro h
    constructor
    · intro ip hip
      rw [h] at hip
      cases hip
    · exact fun _ => h

/-- The address is forgotten with the saved one, wherever the run started. -/
theorem Reach.forgets {I : List Act → World → Prop} {st : List Act} {w : World} (h : Reach I st w)
    (hI : ∀ st w, I st w → Always (fun ev _ _ => ev ≠ .forgot) w.trace) :
    Always (fun ev d past => ev = .forgot → (Remembered d past ↔ lastSighting past = none)) w.trace := by
  refine h.always (fun st w hi => (hI st w hi).mono fun _ _ _ hne he => absurd he hne) fun st w ev d past hr hn => ?_
  cases hn with
  | forget st => exact fun _ => remembered_forgetIp_iff w.dev w.trace
  | mark hm => cases hm <;> nofun
  | net hn => cases hn <;> nofun
  | _ => nofun

/-- In every run, from power-on or of `loop` from any state, whenever the absence branch ends: a target that came back since the house
was switched off is remembered exactly if none did. -/
theorem absence_remembers_iff (eeprom flash : Nat → Byte) (d : Device) (tape : List Input) :
    Always (fun ev d past => ev = .forgot → (Remembered d past ↔ lastSighting past = none)) (run eeprom flash tape).trace ∧
    Always (fun ev d past => ev = .forgot → (Remembered d past ↔ lastSighting past = none)) (runLoop d tape).trace := by
  constructor
  · obtain ⟨st, hr⟩ := run_reached eeprom flash tape
    refine hr.forgets ?_
    rintro st w ⟨rfl, eeprom, flash, rfl⟩
    exact ⟨nofun, nofun, nofun, trivial⟩
  · obtain ⟨st, hr⟩ := runLoop_reached d tape
    refine hr.forgets ?_
    rintro st w ⟨rfl, rfl⟩
    trivial

/-- The target is silent, and comes back while the server is told that the house is off. -/
def comeback : List Input :=
  bootWith 0x01 ++ absence ++ callUp (clientPort 3) ++ framePoll phoneDatagram ++ silence 2 ++ callDown (clientPort 3) (okReply [])

set_option maxRecDepth 10000 in
/-- The phone's address is learned and then forgotten. -/
theorem comeback_forgotten : ¬Always (fun ev d past => ev = .forgot → Remembered d past) (run blank blank comeback).trace := by
  decide +kernel

end EtherHouse
