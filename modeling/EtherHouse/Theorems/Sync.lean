import EtherHouse.Theorems.Lights
import EtherHouse.Machine.Exchange
import EtherHouse.Machine.Traffic

/-!
# A sync and a sighting

What a reply to `get_remote_state` does to a sighting that came between the request and it.
-/

namespace EtherHouse

/-! ## What is heard of the house -/

/-- What was heard of the house last, since it was switched off for absence: the target itself, or the bit of an accepted reply. -/
def lastHeard : Trace → Option Bool
  | [] => none
  | (.enter .sniffer, _) :: _ => some true
  | (.toggled _ false, _) :: _ => none
  | (.parsed .stateParse _ payload, _) :: past =>
    match storedByte payload with
    | some b => some (bitRead b MY_ID)
    | none => lastHeard past
  | _ :: past => lastHeard past

/-- The sniffer's callback has begun and the house may still be off. -/
def Rising : List Act → Prop
  | .sniffer .fresh _ :: _ => True
  | .sniffer .stamped _ :: _ => True
  | _ => False

/-- The house's bit is what was heard last, unless the callback is about to set it. -/
structure Heard (st : List Act) (w : World) : Prop where
  rising : Rising st → lastHeard w.trace = some true
  bit : ∀ v, lastHeard w.trace = some v → ¬Rising st → bitRead w.dev.state MY_ID = v

/-- A step that changes neither bit nor what was heard. -/
theorem Heard.same {st st' : List Act} {w w' : World} (h : Heard st w) (hr : Rising st' ↔ Rising st)
    (hs : w'.dev.state = w.dev.state) (ht : lastHeard w'.trace = lastHeard w.trace) : Heard st' w' where
  rising := fun hr' => by rw [ht]; exact h.rising (hr.mp hr')
  bit := fun v hv hn => by rw [hs]; exact h.bit v (ht ▸ hv) fun hr' => hn (hr.mpr hr')

/-- The steps of the library hear nothing. -/
theorem NetStep.lastHeard {st st' : List Act} {w : World} {note : Option Event} {f : Ether → Ether}
    (hs : NetStep st w.dev note f st') : lastHeard (w.note note).trace = EtherHouse.lastHeard w.trace := by
  cases hs <;> rfl

/-- They bring no callback to its start or past it. -/
theorem NetStep.rising {st st' : List Act} {d : Device} {note : Option Event} {f : Ether → Ether}
    (hs : NetStep st d note f st') : Rising st' ↔ Rising st := by
  cases hs <;> simp [Rising]

/-- What is returned to is no callback. -/
theorem Resumes.not_rising {st : List Act} (h : Resumes st) : ¬Rising st := by
  cases h <;> exact id

/-- Nor is what makes a server call. -/
theorem CallSite.not_rising {k : Api} {st st' : List Act} (hc : CallSite k st st') : ¬Rising st := by
  cases hc <;> exact id

/-- What is noted keeps it. -/
theorem MarkStep.heard {st st' : List Act} {w : World} {ev : Event} (hs : MarkStep st w.dev ev st') (hw : WellStacked st w)
    (h : Heard st w) : Heard st' (w.emit ev) := by
  cases hs with
  | abort hc =>
    exact h.same (iff_of_false (hc.resumes hw).not_rising hc.not_rising) rfl rfl
  | enter hc => exact h.same (iff_of_false nofun hc.not_rising) rfl rfl
  | leave k => exact h.same (iff_of_false hw.home.1.resumes.not_rising nofun) rfl rfl
  | polled => exact h.same (iff_of_false hw.resumes.not_rising nofun) rfl rfl
  | wdtReset => exact h.same Iff.rfl rfl rfl
  | compared => exact h.same Iff.rfl rfl rfl
  | ignored => exact h.same (by simp [Rising]) rfl rfl
  | hooked => exact h.same (by simp [Rising]) rfl rfl
  | loopBegin => exact h.same (by simp [Rising]) rfl rfl
  | loopEnd => exact h.same (by simp [Rising]) rfl rfl
  | setupEnd => exact h.same (by simp [Rising]) rfl rfl
  | sweepBegin => exact h.same (by simp [Rising]) rfl rfl
  | sweepEnd => exact h.same (by simp [Rising]) rfl rfl
  | lastDitchBegin => exact h.same (by simp [Rising]) rfl rfl
  | lastDitchEnd => exact h.same (by simp [Rising]) rfl rfl

/-- The steps of the stack keep it. -/
theorem CtrlStep.heard {st st' : List Act} {w : World} (hs : CtrlStep st w.dev st') (h : Heard st w) : Heard st' w := by
  cases hs with
  | alight srcIp st hb =>
    have hr := h.rising trivial
    constructor
    · nofun
    · intro v hv _
      rw [hr] at hv
      cases hv
      exact hb
  | noDhcp => exact h.same (by simp [Rising]) rfl rfl
  | unheard => exact h.same (by simp [Rising]) rfl rfl
  | noParse => exact h.same (by simp [Rising]) rfl rfl
  | drained => exact h.same (by simp [Rising]) rfl rfl
  | skip => exact h.same (by simp [Rising]) rfl rfl
  | absent => exact h.same (by simp [Rising]) rfl rfl
  | confirmed => exact h.same (by simp [Rising]) rfl rfl
  | present => exact h.same (by simp [Rising]) rfl rfl

/-- A parse callback: if it takes a byte from the reply, that is what was heard last. -/
theorem lastHeard_stateParse (status : Byte) (payload : List Byte) (d : Device) (past : Trace) :
    lastHeard ((.parsed .stateParse status payload, d) :: past) =
      match storedByte payload with
      | some b => some (bitRead b MY_ID)
      | none => lastHeard past := rfl

/-- A parse callback sets the bit that it was sent. -/
theorem Heard.parse {plen : Nat} {u : Upcall} {st : List Act} {w : World} (h : Heard (.packetLoop plen (.upcall u) :: st) w)
    (cb : BrowserCallback) (buf : Nat) (status : Byte) (off len : Nat) :
    Heard (.packetLoop plen (.closing u) :: st)
      ((w.emit (.parsed cb status (w.dev.ether.buffer.slice off len))).update (browserCallback cb buf status off len)) := by
  by_cases hcb : cb = .stateParse
  · subst hcb
    have hlast := lastHeard_stateParse status (w.dev.ether.buffer.slice off len) w.dev w.trace
    rcases stateParseCallback_storedByte w.dev off len buf status with ⟨hn, hc⟩ | ⟨b, hb, hc⟩
    · refine h.same (by simp [Rising]) ?_ ?_
      · rw [update_dev, emit_dev, browserCallback, hc]
      · rw [update_trace, emit_trace, hlast, hn]
    · constructor
      · exact fun hrising => absurd hrising (by simp [Rising])
      · intro v hv _
        rw [update_trace, emit_trace, hlast, hb] at hv
        rw [update_dev, emit_dev, browserCallback, hc]
        exact Option.some.inj hv
  · obtain ⟨mac, sniffers, hc⟩ := browserCallback_other hcb buf status off len w.dev
    refine h.same (by simp [Rising]) ?_ ?_
    · rw [update_dev, emit_dev, hc]
    · cases cb with
      | stateParse => exact absurd rfl hcb
      | macsParse => rfl
      | apiSet => rfl

/-- Each step keeps it. -/
theorem Step.heard {st st' : List Act} {w w' : World} (hs : Step st w st' w') (hw : WellStacked st w) (h : Heard st w) :
    Heard st' w' := by
  cases hs with
  | tick => exact h.same Iff.rfl rfl rfl
  | net hn =>
    have ht := hn.lastHeard
    exact h.same hn.rising (by simp) (by simpa using ht)
  | ctrl hc => exact hc.heard h
  | mark hm => exact hm.heard hw h
  | timer ht => cases ht <;> exact h.same (by simp [Rising]) rfl rfl
  | poll a hp => exact h.same (iff_of_false nofun hp.resumes.not_rising) rfl rfl
  | receive => exact h.same Iff.rfl rfl rfl
  | sniff => exact ⟨fun _ => rfl, fun v _ hn => absurd trivial hn⟩
  | toggleOn srcIp st hb =>
    have hr : lastHeard w.trace = some true := h.rising trivial
    constructor
    · nofun
    · intro v hv _
      have hv' : lastHeard w.trace = some v := hv
      rw [hr] at hv'
      cases hv'
      exact bitRead_bitWrite_self _ true (by decide)
  | toggleOff => exact ⟨nofun, nofun⟩
  | learn => exact h.same Iff.rfl rfl rfl
  | unsniff srcIp =>
    exact h.same (iff_of_false hw.sniffed.1.resumes.not_rising nofun) rfl rfl
  | requested => exact h.same (by simp [Rising]) rfl rfl
  | parse => exact h.parse _ _ _ _ _
  | lock => exact h.same (by simp [Rising]) rfl rfl
  | forget =>
    obtain ⟨rfl, _⟩ := hw.absence_flags
    exact h.same (by simp [Rising]) rfl rfl
  | bootApiIp => exact h.same Iff.rfl rfl rfl

/-- So the bit is what was heard last, wherever a run has got. -/
theorem Reach.heard {st : List Act} {w : World} (h : Reach PowerUp st w) : Heard st w := by
  refine h.invariant (fun st w hi => ?_) fun st w st' w' hr hh hs => hs.heard (hr.wellStacked powerUp_start) hh
  obtain ⟨rfl, eeprom, flash, rfl⟩ := hi
  exact ⟨nofun, nofun⟩

/-! ## A sync and its phases -/

/-- Where a sync stands: none is under way, it has no request out yet, its request is out, the target was heard of since, or a callback
has ended its wait, with the target heard of between the request and it or not. -/
inductive SyncPhase where
  | idle
  | called
  | asked
  | sighted
  | answered (sighted : Bool)
  deriving DecidableEq

def syncPhase : Trace → SyncPhase
  | [] => .idle
  | (.enter (.api .state), _) :: _ => .called
  | (.leave (.api .state), _) :: _ => .idle
  | (.request _, _) :: past => match syncPhase past with | .called => .asked | p => p
  | (.enter .sniffer, _) :: past => match syncPhase past with | .asked => .sighted | p => p
  | (.parsed _ _ _, _) :: past =>
    match syncPhase past with
    | .called => .answered false
    | .asked => .answered false
    | .sighted => .answered true
    | p => p
  | _ :: past => syncPhase past

/-- The target was heard of while the sync waited. -/
def SyncPhase.Sighted : SyncPhase → Prop
  | .sighted => True
  | .answered true => True
  | _ => False

/-- `get_remote_state` is on the stack. -/
def Syncing (st : List Act) : Prop := Call.api .state ∈ calls st

/-- A sync is under way only while `get_remote_state` is on the stack, and a sighting in it is not forgotten. -/
structure Tracked (st : List Act) (w : World) : Prop where
  syncing : syncPhase w.trace ≠ .idle → Syncing st
  heard : (syncPhase w.trace).Sighted → lastHeard w.trace ≠ none

/-- A step that changes nothing of the sync. -/
theorem Tracked.same {st st' : List Act} {w w' : World} (h : Tracked st w) (hs : Syncing st → Syncing st')
    (hp : syncPhase w'.trace = syncPhase w.trace) (ht : lastHeard w'.trace = lastHeard w.trace) : Tracked st' w' where
  syncing := fun hn => hs (h.syncing (hp ▸ hn))
  heard := fun hw => by rw [ht]; exact h.heard (hp ▸ hw)

/-- Whether a sync is under way is seen from the calls. -/
theorem syncing_of_calls {st st' : List Act} (h : calls st' = calls st) : Syncing st → Syncing st' := by
  unfold Syncing
  rw [h]
  exact id

/-- The steps of the library keep it. -/
theorem NetStep.tracked {st st' : List Act} {w : World} {note : Option Event} {f : Ether → Ether} (hs : NetStep st w.dev note f st')
    (h : Tracked st w) : Tracked st' ((w.note note).update (Device.net f)) := by
  have hp : syncPhase (w.note note).trace = syncPhase w.trace := by cases hs <;> rfl
  exact h.same (syncing_of_calls hs.calls) hp hs.lastHeard

/-- What is noted keeps it. -/
theorem MarkStep.tracked {st st' : List Act} {w : World} {ev : Event} (hs : MarkStep st w.dev ev st')
    (h : Tracked st w) : Tracked st' (w.emit ev) := by
  cases hs with
  | @enter k _ _ _ hc =>
    cases k with
    | state => exact ⟨fun _ => List.mem_cons_self, nofun⟩
    | _ => exact h.same (fun hm => List.mem_cons_of_mem _ (syncing_of_calls hc.calls hm)) rfl rfl
  | leave k st =>
    cases k with
    | state => exact ⟨fun hn => absurd rfl hn, nofun⟩
    | _ => exact h.same (fun hm => (List.mem_cons.mp hm).resolve_left (by decide)) rfl rfl
  | abort hc => exact h.same (syncing_of_calls hc.calls) rfl rfl
  | wdtReset => exact h.same id rfl rfl
  | compared => exact h.same id rfl rfl
  | ignored => exact h.same (by simp [Syncing, calls, Act.call]) rfl rfl
  | hooked => exact h.same (by simp [Syncing, calls, Act.call]) rfl rfl
  | polled => exact h.same (by simp [Syncing, calls, Act.call]) rfl rfl
  | loopBegin => exact h.same (by simp [Syncing, calls, Act.call]) rfl rfl
  | loopEnd => exact h.same (by simp [Syncing, calls, Act.call]) rfl rfl
  | setupEnd => exact h.same (by simp [Syncing, calls, Act.call]) rfl rfl
  | sweepBegin => exact h.same (by simp [Syncing, calls, Act.call]) rfl rfl
  | sweepEnd => exact h.same (by simp [Syncing, calls, Act.call]) rfl rfl
  | lastDitchBegin => exact h.same (by simp [Syncing, calls, Act.call]) rfl rfl
  | lastDitchEnd => exact h.same (by simp [Syncing, calls, Act.call]) rfl rfl

/-- A callback ends the wait; it does not make a sighting unheard. -/
theorem Tracked.parsed {st st' : List Act} {w : World} (h : Tracked st w) (hs : calls st' = calls st) (cb : BrowserCallback)
    (status : Byte) (payload : List Byte) (f : Device → Device) :
    Tracked st' ((w.emit (.parsed cb status payload)).update f) := by
  have hphase : syncPhase ((w.emit (.parsed cb status payload)).update f).trace =
      match syncPhase w.trace with
      | .called => .answered false
      | .asked => .answered false
      | .sighted => .answered true
      | p => p := rfl
  have hheard : lastHeard w.trace ≠ none → lastHeard ((w.emit (.parsed cb status payload)).update f).trace ≠ none := by
    intro hne
    cases cb with
    | stateParse =>
      simp only [update_trace, emit_trace, lastHeard]
      split
      · nofun
      · exact hne
    | macsParse => exact hne
    | apiSet => exact hne
  have hsync := h.syncing
  have hsight := h.heard
  constructor
  · intro hn
    refine syncing_of_calls hs (hsync fun hi => ?_)
    rw [hphase, hi] at hn
    exact hn rfl
  · intro hw
    refine hheard (hsight ?_)
    rw [hphase] at hw
    revert hw
    cases syncPhase w.trace <;> simp [SyncPhase.Sighted]

/-- Each step keeps it. -/
theorem Step.tracked {st st' : List Act} {w w' : World} (hs : Step st w st' w') (hw : WellStacked st w) (h : Tracked st w) :
    Tracked st' w' := by
  cases hs with
  | tick => exact h.same id rfl rfl
  | net hn => exact hn.tracked h
  | ctrl hc => exact h.same (syncing_of_calls hc.calls) rfl rfl
  | mark hm => exact hm.tracked h
  | timer ht => exact h.same (syncing_of_calls ht.calls) rfl rfl
  | poll => exact h.same (List.mem_cons_of_mem _) rfl rfl
  | receive => exact h.same id rfl rfl
  | @sniff _ _ w st =>
    have hphase : syncPhase ((.enter .sniffer, w.dev) :: w.trace) = match syncPhase w.trace with | .asked => .sighted | p => p := rfl
    constructor
    · intro hn
      refine List.mem_cons_of_mem _ (h.syncing fun hi => ?_)
      rw [update_trace, emit_trace, hphase, hi] at hn
      exact hn rfl
    · nofun
  | toggleOn => exact h.same id rfl rfl
  | toggleOff st =>
    -- the absence branch stands on `loop` alone
    obtain ⟨rfl, _⟩ := hw.absence_flags
    have hidle : syncPhase w.trace = .idle := by
      by_contra hn
      have hm := h.syncing hn
      simp [Syncing, calls, Act.call] at hm
    constructor
    · exact fun hn => absurd hidle hn
    · intro hsight
      have hsight' : (syncPhase w.trace).Sighted := hsight
      rw [hidle] at hsight'
      exact hsight'.elim
  | learn => exact h.same id rfl rfl
  | unsniff => exact h.same (fun hm => (List.mem_cons.mp hm).resolve_left (by decide)) rfl rfl
  | @requested _ _ w =>
    have hphase : ∀ url d, syncPhase ((.request url, d) :: w.trace) = match syncPhase w.trace with | .called => .asked | p => p :=
      fun _ _ => rfl
    have hsync := h.syncing
    have hsight := h.heard
    constructor
    · intro hn
      refine hsync fun hi => ?_
      rw [emit_trace, update_trace, hphase, hi] at hn
      exact hn rfl
    · intro hw
      refine hsight ?_
      rw [emit_trace, update_trace, hphase] at hw
      revert hw
      cases syncPhase w.trace <;> simp [SyncPhase.Sighted]
  | parse =>
    refine h.parsed ?_ _ _ _ _
    rfl
  | lock => exact h.same id rfl rfl
  | forget => exact h.same id rfl rfl
  | bootApiIp => exact h.same id rfl rfl

/-- So it holds wherever a run has got. -/
theorem Reach.tracked {st : List Act} {w : World} (h : Reach PowerUp st w) : Tracked st w := by
  refine h.invariant (fun st w hi => ?_) fun st w st' w' hr ht hs => hs.tracked (hr.wellStacked powerUp_start) ht
  obtain ⟨rfl, eeprom, flash, rfl⟩ := hi
  exact ⟨fun hn => absurd rfl hn, nofun⟩

/-- In every run from power-on, whenever `get_remote_state` returns after a sighting between its request and the callback that ended
its wait: the house is on and shown exactly if what was heard of it last is not a reply with its bit clear. -/
theorem sync_keeps_sighting_iff (eeprom flash : Nat → Byte) (tape : List Input) :
    Always (fun ev d past => ev = .leave (.api .state) → syncPhase past = .answered true →
      ((bitRead d.state MY_ID = true ∧ d.pins (MY_ID + 2) = true) ↔ lastHeard past ≠ some false)) (run eeprom flash tape).trace := by
  obtain ⟨st, hr⟩ := run_reached eeprom flash tape
  refine hr.always ?_ fun st w ev d past hr hn => ?_
  · rintro st w ⟨rfl, eeprom, flash, rfl⟩
    exact ⟨nofun, nofun, nofun, trivial⟩
  · cases hn with
    | mark hm => cases hm with
      | leave k st =>
        intro _ hphase
        have hpin := hr.lit.shown MY_ID (by decide)
        have hbit : ∀ v, lastHeard w.trace = some v → bitRead w.dev.state MY_ID = v := fun v hv => hr.heard.bit v hv nofun
        have hne := hr.tracked.heard (by rw [hphase]; trivial)
        rw [hpin, and_self]
        obtain ⟨v, hv⟩ := Option.ne_none_iff_exists'.mp hne
        rw [hbit v hv, hv]
        cases v <;> simp
      | _ => nofun
    | net hn => cases hn <;> nofun
    | _ => nofun

/-- A call of `loop` that finds nothing, seven seconds after the one before. -/
def quietLoop : List Input := passes 7000 ++ silence 9

/-- A boot with the house off, five minutes of silence, and a sync whose reply with a clear bit comes after the phone's datagram. -/
def overtaken : List Input :=
  bootWith 0x00 ++ (List.replicate 43 quietLoop).flatten ++ callUp (clientPort 3) ++ framePoll phoneDatagram ++ silence 2 ++
    callDown (clientPort 3) (okReply [0x00])

set_option maxRecDepth 10000 in
/-- The house is off again, with the phone just heard of. -/
theorem overtaken_discarded :
    ¬Always (fun ev d past => ev = .leave (.api .state) → syncPhase past = .answered true →
        bitRead d.state MY_ID = true ∧ d.pins (MY_ID + 2) = true)
      (run (fun i => (eepromRecord 0 phoneIp).getD i 0) blank overtaken).trace := by
  decide +kernel

end EtherHouse
