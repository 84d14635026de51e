import EtherHouse.Theorems.Record
import EtherHouse.Theorems.Reply
import EtherHouse.Machine.Traffic

/-!
# The saved record while `loop` runs

Which changes of `state` and `target_ip` are saved by the time `loop` returns. The sniffer's callback switches the house on and saves
only if it stores an address.
-/

namespace EtherHouse

/-- The cells hold the record that `saveStateToEeprom` would write now. -/
def Coherent (d : Device) : Prop := readCells d.eeprom = eepromRecord d.state d.targetIp

instance (d : Device) : Decidable (Coherent d) := inferInstanceAs (Decidable (_ = _))

/-- The house was switched on or off, and nothing was saved since: no address was stored or reset, no reply accepted. -/
def unsaved : Trace → Bool
  | [] => false
  | (.toggled _ _, _) :: _ => true
  | (.learned, _) :: _ => false
  | (.forgot, _) :: _ => false
  | (.parsed .stateParse _ payload, _) :: past => (storedByte payload).isNone && unsaved past
  | _ :: past => unsaved past

/-! ## What saves -/

/-- After a save the record is the device's. -/
theorem coherent_saveStateToEeprom (d : Device) : Coherent (saveStateToEeprom d) := readCells_saveStateToEeprom d

/-- A house that was switched on without a save: the record is that of a state with the house off. -/
def Behind (d : Device) : Prop :=
  bitRead d.state MY_ID = true ∧ ∃ s ip, readCells d.eeprom = eepromRecord s ip ∧ bitRead s MY_ID = false

/-- A record that lags behind is not. -/
theorem Behind.not_coherent {d : Device} (h : Behind d) : ¬Coherent d := by
  obtain ⟨hbit, s, ip, hcells, hs⟩ := h
  intro hc
  obtain ⟨hstate, _⟩ := eepromRecord_inj (hcells.symm.trans hc)
  rw [hstate, hbit] at hs
  cases hs

/-- The absence branch has switched the house off and has not saved yet. -/
def Forgetting (st : List Act) : Prop := Act.absence .forgetting ∈ st

/-- Outside the absence branch: the record is the device's, or the trace says that it is behind. -/
structure Saved (st : List Act) (w : World) : Prop where
  coherent : ¬Forgetting st → unsaved w.trace = false → Coherent w.dev
  behind : ¬Forgetting st → unsaved w.trace = true → Behind w.dev

/-- A step that changes neither the record nor what is recorded. -/
theorem Saved.same {st st' : List Act} {w w' : World} (h : Saved st w) (hf : Forgetting st → Forgetting st')
    (he : w'.dev.eeprom = w.dev.eeprom) (hs : w'.dev.state = w.dev.state) (hip : w'.dev.targetIp = w.dev.targetIp)
    (ht : unsaved w'.trace = unsaved w.trace) : Saved st' w' := by
  constructor
  · intro hn hu
    have hc : readCells w.dev.eeprom = _ := h.coherent (fun hw => hn (hf hw)) (ht ▸ hu)
    rw [Coherent, he, hs, hip]
    exact hc
  · intro hn hu
    have hb := h.behind (fun hw => hn (hf hw)) (ht ▸ hu)
    unfold Behind at hb ⊢
    rw [he, hs]
    exact hb

/-- A step that saves. -/
theorem Saved.saved {st' : List Act} {w' : World} (hc : Coherent w'.dev) (hu : unsaved w'.trace = false) : Saved st' w' where
  coherent := fun _ _ => hc
  behind := fun _ hu' => by
    rw [hu] at hu'
    cases hu'

/-- The steps of the library change neither. -/
theorem NetStep.saved {st st' : List Act} {w : World} {note : Option Event} {f : Ether → Ether} (hs : NetStep st w.dev note f st')
    (h : Saved st w) : Saved st' ((w.note note).update (Device.net f)) := by
  have ht : unsaved (w.note note).trace = unsaved w.trace := by cases hs <;> rfl
  refine h.same ?_ (by simp) (by simp) (by simp) ht
  cases hs <;> simp [Forgetting]

/-- Nor do the steps of the stack. -/
theorem CtrlStep.saved {st st' : List Act} {w : World} (hs : CtrlStep st w.dev st') (h : Saved st w) : Saved st' w := by
  refine h.same ?_ rfl rfl rfl rfl
  cases hs <;> simp [Forgetting]

/-- A server call is not made while the address is being forgotten, but to report the house. -/
theorem CallSite.forgetting {k : Api} {st st' : List Act} (h : CallSite k st st') : Forgetting st → Forgetting st' := by
  cases h <;> simp [Forgetting]

/-- What is noted changes neither. -/
theorem MarkStep.saved {st st' : List Act} {w : World} {ev : Event} (hs : MarkStep st w.dev ev st') (h : Saved st w) :
    Saved st' (w.emit ev) := by
  cases hs with
  | abort hc => exact h.same hc.forgetting rfl rfl rfl rfl
  | enter hc => exact h.same (fun hf => List.mem_cons_of_mem _ (hc.forgetting hf)) rfl rfl rfl rfl
  | _ => exact h.same (by simp [Forgetting]) rfl rfl rfl rfl

/-- A parse callback: if it takes a byte from the reply it saves. -/
theorem Saved.parse {plen : Nat} {u : Upcall} {st : List Act} {w : World} (h : Saved (.packetLoop plen (.upcall u) :: st) w)
    (cb : BrowserCallback) (buf : Nat) (status : Byte) (off len : Nat) :
    Saved (.packetLoop plen (.closing u) :: st)
      ((w.emit (.parsed cb status (w.dev.ether.buffer.slice off len))).update (browserCallback cb buf status off len)) := by
  have hf : Forgetting (.packetLoop plen (.upcall u) :: st) → Forgetting (.packetLoop plen (.closing u) :: st) := by
    simp [Forgetting]
  by_cases hcb : cb = .stateParse
  · subst hcb
    have hu : unsaved ((.parsed .stateParse status (w.dev.ether.buffer.slice off len), w.dev) :: w.trace) =
        ((storedByte (w.dev.ether.buffer.slice off len)).isNone && unsaved w.trace) := rfl
    rcases stateParseCallback_storedByte w.dev off len buf status with ⟨hn, hc⟩ | ⟨b, hb, hc⟩
    · refine h.same hf ?_ ?_ ?_ ?_
      · rw [update_dev, emit_dev, browserCallback, hc]
      · rw [update_dev, emit_dev, browserCallback, hc]
      · rw [update_dev, emit_dev, browserCallback, hc]
      · rw [update_trace, emit_trace, hu, hn, Option.isNone_none, Bool.true_and]
    · refine Saved.saved ?_ ?_
      · rw [update_dev, emit_dev, browserCallback, hc]
        have hsave := coherent_saveStateToEeprom (syncLeds ({ w.dev with state := b }.net (syslogRam w.dev.flash buf)))
        exact hsave
      · rw [update_trace, emit_trace, hu, hb, Option.isNone_some, Bool.false_and]
  · obtain ⟨mac, sniffers, hc⟩ := browserCallback_other hcb buf status off len w.dev
    refine h.same hf ?_ ?_ ?_ ?_
    · rw [update_dev, emit_dev, hc]
    · rw [update_dev, emit_dev, hc]
    · rw [update_dev, emit_dev, hc]
    · cases cb with
      | stateParse => exact absurd rfl hcb
      | macsParse => rfl
      | apiSet => rfl

/-- The callback switches the house on: the record, which was the device's, is now behind. -/
theorem Saved.toggleOn {srcIp : Nat} {st : List Act} {w : World} (h : Saved (.sniffer .stamped srcIp :: st) w)
    (hb : bitRead w.dev.state MY_ID = false) :
    Saved (.toggle true :: .sniffer .lit srcIp :: st) ((w.update (setMyHouse true)).emit (.toggled MY_ID true)) := by
  have hf : Forgetting (.sniffer .stamped srcIp :: st) → Forgetting (.toggle true :: .sniffer .lit srcIp :: st) := by
    simp [Forgetting]
  refine ⟨nofun, fun hn _ => ?_⟩
  have hclean : unsaved w.trace = false := by
    by_contra hu
    have hbehind := (h.behind (fun hw => hn (hf hw)) (by simpa using hu)).1
    rw [hb] at hbehind
    cases hbehind
  have hc : Coherent w.dev := h.coherent (fun hw => hn (hf hw)) hclean
  exact ⟨bitRead_bitWrite_self _ true (by decide), w.dev.state, w.dev.targetIp, hc, hb⟩

/-- Each step keeps what the trace says of the record. -/
theorem Step.saved {st st' : List Act} {w w' : World} (hs : Step st w st' w') (h : Saved st w) : Saved st' w' := by
  cases hs with
  | tick => exact h.same id rfl rfl rfl rfl
  | net hn => exact hn.saved h
  | ctrl hc => exact hc.saved h
  | mark hm => exact hm.saved h
  | timer ht => cases ht <;> exact h.same (by simp [Forgetting]) rfl rfl rfl rfl
  | poll => exact h.same (by simp [Forgetting]) rfl rfl rfl rfl
  | receive => exact h.same id rfl rfl rfl rfl
  | sniff => exact h.same (by simp [Forgetting]) rfl rfl rfl rfl
  | toggleOn srcIp st hb => exact h.toggleOn hb
  | toggleOff st hb =>
    -- the branch will save
    have hf : Forgetting (.toggle false :: .absence .forgetting :: st) := by simp [Forgetting]
    exact ⟨fun hn => absurd hf hn, fun hn => absurd hf hn⟩
  | learn srcIp => exact Saved.saved (coherent_saveStateToEeprom _) rfl
  | unsniff => exact h.same (by simp [Forgetting]) rfl rfl rfl rfl
  | requested => exact h.same (by simp [Forgetting]) rfl rfl rfl rfl
  | parse => exact h.parse _ _ _ _ _
  | lock => exact h.same (by simp [Forgetting]) rfl rfl rfl rfl
  | forget => exact Saved.saved (coherent_saveStateToEeprom _) rfl
  | bootApiIp => exact h.same id rfl rfl rfl rfl

/-- In every run of `loop` from a device whose record is saved: whenever `loop` returns, the record is saved exactly if the house has
not been switched on without a save since. -/
theorem loop_coherent_iff (d : Device) (hd : readCells d.eeprom = eepromRecord d.state d.targetIp) (tape : List Input) :
    Always (fun ev d' past => ev = .leave .loop →
      (readCells d'.eeprom = eepromRecord d'.state d'.targetIp ↔ unsaved past = false)) (runLoop d tape).trace := by
  obtain ⟨st, hr⟩ := runLoop_reached d tape
  have hsaved : ∀ st w, Reach (LoopFrom d) st w → Saved st w := by
    intro st w h
    refine h.invariant (fun st w hi => ?_) fun st w st' w' _ ha hs => hs.saved ha
    obtain ⟨rfl, rfl⟩ := hi
    exact Saved.saved hd rfl
  refine hr.always ?_ fun st w ev d' past hr hn => ?_
  · rintro st w ⟨rfl, rfl⟩
    trivial
  · cases hn with
    | mark hm => cases hm with
      | loopEnd =>
        intro _
        have h := hsaved _ _ hr
        have hf : ¬Forgetting [.loop] := by simp [Forgetting]
        constructor
        · intro hc
          by_contra hu
          exact (h.behind hf (by simpa using hu)).not_coherent hc
        · exact h.coherent hf
      | _ => nofun
    | net hn => cases hn <;> nofun
    | _ => nofun

/-- A device that has booted with the house off and the phone's address in its record. -/
def booted : Device := (run (fun i => (eepromRecord 0 phoneIp).getD i 0) blank (bootWith 0x00)).dev

/-- The phone asks for the gateway, the callback reports it, and `loop` returns. -/
def homecoming : List Input := framePoll phoneArp ++ silence 1 ++ serverCall 3 (okReply []) ++ silence 7

set_option maxRecDepth 10000 in
/-- Boot leaves a record that is the device's. -/
theorem booted_coherent : readCells booted.eeprom = eepromRecord booted.state booted.targetIp := by decide +kernel

set_option maxRecDepth 10000 in
/-- The house is on, and the record says that it is off. -/
theorem homecoming_unsaved : ¬∀ (d : Device) (tape : List Input), readCells d.eeprom = eepromRecord d.state d.targetIp →
    Always (fun ev d' _ => ev = .leave .loop → readCells d'.eeprom = eepromRecord d'.state d'.targetIp) (runLoop d tape).trace := by
  have hrun : ¬Always (fun ev d' _ => ev = .leave .loop → readCells d'.eeprom = eepromRecord d'.state d'.targetIp)
      (runLoop booted homecoming).trace := by decide +kernel
  exact fun h => hrun (h booted homecoming booted_coherent)

/-- The first call of `loop` meets the phone: the record lags behind exactly if the trace says so. -/
theorem loop_coherent_booted :
    readCells booted.eeprom = eepromRecord booted.state booted.targetIp ∧
      Always (fun ev d' past => ev = .leave .loop →
        (readCells d'.eeprom = eepromRecord d'.state d'.targetIp ↔ unsaved past = false)) (runLoop booted homecoming).trace :=
  ⟨booted_coherent, loop_coherent_iff booted booted_coherent homecoming⟩

end EtherHouse
