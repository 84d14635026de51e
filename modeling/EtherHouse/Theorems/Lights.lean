import EtherHouse.Machine.Discipline
import EtherHouse.Theorems.Reply

/-!
# The lights

The output pins show the state byte, and the bits of the other houses are those that were loaded or stored last.
-/

namespace EtherHouse

/-- Every house's pin has the value of its bit. -/
def Shown (d : Device) : Prop := ∀ i < NUM_HOUSES, d.pins (i + 2) = bitRead d.state i

/-- The byte that was loaded by `readStateFromEeprom` or stored by `state_parse_callback` last. -/
def lastSynced : Trace → Byte
  | [] => 0
  | (.loaded, d) :: _ => d.state
  | (.parsed .stateParse _ payload, _) :: past => (storedByte payload).getD (lastSynced past)
  | _ :: past => lastSynced past

/-! ## Showing -/

/-- The lights are set one by one. -/
theorem foldl_pins (f : Nat → Bool) (houses : List Nat) (pins : Nat → Bool) (i : Nat) :
    houses.foldl (fun pins j => Function.update pins (j + 2) (f j)) pins (i + 2) = if i ∈ houses then f i else pins (i + 2) := by
  induction houses generalizing pins with
  | nil => simp
  | cons j houses ih =>
    rw [List.foldl_cons, ih]
    by_cases hi : i ∈ houses
    · simp [hi]
    · by_cases hij : i = j
      · subst hij
        simp
      · simp [hi, hij]

/-- `sync_leds` shows the houses. -/
theorem shown_syncLeds (d : Device) : Shown (syncLeds d) := by
  intro i hi
  have hpins := foldl_pins (bitRead d.state) (List.range NUM_HOUSES) d.pins i
  rw [if_pos (List.mem_range.mpr hi)] at hpins
  exact hpins

/-- What is shown depends on pins and state only. -/
theorem Shown.congr {d d' : Device} (h : Shown d) (hp : d'.pins = d.pins) (hs : d'.state = d.state) : Shown d' := by
  intro i hi
  rw [hp, hs]
  exact h i hi

/-- Boot shows the houses. -/
theorem shown_readStateFromEeprom (d : Device) : Shown (readStateFromEeprom d) := shown_syncLeds _

/-! ## The invariant -/

/-- The lights show the state, and the bits of the other houses are those loaded or stored last. -/
structure Lit (w : World) : Prop where
  shown : Shown w.dev
  others : ∀ i, i ≠ MY_ID → bitRead w.dev.state i = bitRead (lastSynced w.trace) i

/-- A step that changes neither pins nor state nor what a sync stored. -/
theorem Lit.same {w w' : World} (h : Lit w) (hp : w'.dev.pins = w.dev.pins) (hs : w'.dev.state = w.dev.state)
    (ht : lastSynced w'.trace = lastSynced w.trace) : Lit w' where
  shown := h.shown.congr hp hs
  others := fun i hi => by rw [hs, ht]; exact h.others i hi

/-- Setting the house's own bit leaves the other bits alone. -/
theorem Lit.toggle {w : World} (h : Lit w) (value : Bool) {ev : Event}
    (ht : lastSynced ((ev, setMyHouse value w.dev) :: w.trace) = lastSynced w.trace) :
    Lit ((w.update (setMyHouse value)).emit ev) where
  shown := shown_syncLeds _
  others := fun i hi => by
    have hbit := bitRead_bitWrite_of_ne w.dev.state value (Ne.symm hi)
    rw [emit_trace, update_trace, update_dev, ht, ← h.others i hi, ← hbit]
    rfl

/-- A parse callback: what it stores is shown at once. -/
theorem Lit.parse {w : World} (h : Lit w) (cb : BrowserCallback) (buf : Nat) (status : Byte) (off len : Nat) :
    Lit ((w.emit (.parsed cb status (w.dev.ether.buffer.slice off len))).update (browserCallback cb buf status off len)) := by
  by_cases hcb : cb = .stateParse
  · subst hcb
    have hlast : lastSynced ((.parsed .stateParse status (w.dev.ether.buffer.slice off len), w.dev) :: w.trace) =
        (storedByte (w.dev.ether.buffer.slice off len)).getD (lastSynced w.trace) := rfl
    rcases stateParseCallback_storedByte w.dev off len buf status with ⟨hn, hc⟩ | ⟨b, hb, hc⟩
    · refine h.same ?_ ?_ ?_
      · rw [update_dev, emit_dev, browserCallback, hc]
      · rw [update_dev, emit_dev, browserCallback, hc]
      · rw [update_trace, emit_trace, hlast, hn, Option.getD_none]
    · constructor
      · rw [update_dev, emit_dev, browserCallback, hc]
        exact (shown_syncLeds _).congr rfl rfl
      · intro i _
        rw [update_trace, emit_trace, hlast, hb, Option.getD_some, update_dev, emit_dev, browserCallback, hc]
        rfl
  · obtain ⟨mac, sniffers, hc⟩ := browserCallback_other hcb buf status off len w.dev
    refine h.same ?_ ?_ ?_
    · rw [update_dev, emit_dev, hc]
    · rw [update_dev, emit_dev, hc]
    · cases cb with
      | stateParse => exact absurd rfl hcb
      | macsParse => rfl
      | apiSet => rfl

/-- The steps of the library store nothing. -/
theorem NetStep.lastSynced {st st' : List Act} {w : World} {note : Option Event} {f : Ether → Ether}
    (hs : NetStep st w.dev note f st') : lastSynced (w.note note).trace = EtherHouse.lastSynced w.trace := by
  cases hs <;> rfl

/-- Each step keeps the lights and the other houses' bits. -/
theorem Step.lit {st st' : List Act} {w w' : World} (hs : Step st w st' w') (h : Lit w) : Lit w' := by
  cases hs with
  | tick => exact h.same rfl rfl rfl
  | net hn =>
    have ht := hn.lastSynced
    exact h.same (by simp) (by simp) (by simpa using ht)
  | ctrl => exact h
  | mark hm => cases hm <;> exact h.same rfl rfl rfl
  | timer ht => cases ht <;> exact h.same rfl rfl rfl
  | toggleOn => exact h.toggle true rfl
  | toggleOff => exact h.toggle false rfl
  | parse => exact h.parse _ _ _ _ _
  | _ => exact h.same rfl rfl rfl

/-- So they are in order wherever a run has got. -/
theorem Reach.lit {st : List Act} {w : World} (h : Reach PowerUp st w) : Lit w := by
  refine h.invariant (fun st w hi => ?_) fun st w st' w' _ hl hs => hs.lit hl
  obtain ⟨rfl, eeprom, flash, rfl⟩ := hi
  exact ⟨shown_readStateFromEeprom _, fun _ _ => rfl⟩

/-- In every run from power-on, whenever a packet loop begins and whenever `loop` returns: every house's pin has the value of its bit
of the state, and the bits of the other houses are those of the byte that was loaded from the EEPROM or stored from a reply last. -/
theorem lights_show_state (eeprom flash : Nat → Byte) (tape : List Input) :
    Always (fun ev d past => ev = .enter .packetLoop ∨ ev = .leave .loop →
      (∀ i < NUM_HOUSES, d.pins (i + 2) = bitRead d.state i) ∧
        ∀ i, i ≠ MY_ID → bitRead d.state i = bitRead (lastSynced past) i) (run eeprom flash tape).trace := by
  obtain ⟨st, hr⟩ := run_reached eeprom flash tape
  refine hr.always ?_ fun st w ev d past hr hn => ?_
  · rintro st w ⟨rfl, eeprom, flash, rfl⟩
    exact ⟨nofun, nofun, nofun, trivial⟩
  · have hl := hr.lit
    cases hn with
    | poll a => exact fun _ => ⟨hl.shown, hl.others⟩
    | mark hm => cases hm with
      | loopEnd => exact fun _ => ⟨hl.shown, hl.others⟩
      | _ => nofun
    | net hn => cases hn <;> nofun
    | _ => nofun

end EtherHouse
