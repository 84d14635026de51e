import EtherHouse.Machine.Run

/-!
# Which stacks there are

The stacks that a run from power-on can have, with what `locked` and `sniffer_nested` are on each. A server call stands on `setup`,
on `loop`, on the absence branch, or once more on the sniffer's callback; the callback is worked through on a packet loop of an
activation that polls. `Disciplined` is kept by every step.
-/

namespace EtherHouse

/-- Where the functions that call the server on the lowest level stand. -/
inductive Site : Api → List Act → Prop where
  | targetMac : Site .targetMac [.setup .listening]
  | bootState : Site .state [.setup .listening]
  | sync : Site .state [.loop]
  | off : Site .off [.absence .forgetting, .loop]

/-- The stacks below the first packet loop that poll with the lock free. -/
inductive OuterCalm : List Act → Prop where
  | setup (p : BootPhase) : OuterCalm [.setup p]
  | loop : OuterCalm [.loop]
  | sweep (base : Ip) (next : Nat) : OuterCalm [.sweep base next, .loop]
  | lastDitch (base : Ip) (next : Nat) : OuterCalm [.sweep base next, .absence .lastDitch, .loop]
  | draining {k : Api} {st : List Act} (h : Site k st) : OuterCalm (.api k .draining :: st)

/-- What a server call stands on, on either level; the last argument is `sniffer_nested`. -/
inductive Home : Api → List Act → Bool → Prop where
  | outer {k : Api} {st : List Act} (h : Site k st) : Home k st false
  | inner {st : List Act} (plen srcIp : Nat) (h : OuterCalm st) :
      Home .on (.sniffer .lit srcIp :: .packetLoop plen .hook :: st) true

/-- The stacks that poll with the lock free, on either level. -/
inductive Calm : List Act → Bool → Prop where
  | outer {st : List Act} (h : OuterCalm st) : Calm st false
  | inner {st : List Act} (h : Home .on st true) : Calm (.api .on .draining :: st) true

/-- What the sniffer's callback stands on; the last argument is `locked`. -/
inductive Sniffed : List Act → Bool → Prop where
  | calm {st : List Act} (plen : Nat) (h : OuterCalm st) : Sniffed (.packetLoop plen .hook :: st) false
  | waiting {k : Api} {st : List Act} (plen : Nat) (h : Site k st) : Sniffed (.packetLoop plen .hook :: .api k .waiting :: st) true

/-- The stacks of a run, with `locked` and `sniffer_nested`. -/
inductive Disciplined : List Act → Bool → Bool → Prop where
  | idle : Disciplined [] false false
  | calm {st : List Act} {n : Bool} (h : Calm st n) : Disciplined st false n
  | absence (p : AbsencePhase) : Disciplined [.absence p, .loop] false false
  | toggleOff : Disciplined [.toggle false, .absence .forgetting, .loop] false false
  | calling {k : Api} {st : List Act} {n : Bool} (h : Home k st n) : Disciplined (.api k .calling :: st) false n
  | armed {k : Api} {st : List Act} {n : Bool} (h : Home k st n) : Disciplined (.api k .armed :: st) false n
  | waiting {k : Api} {st : List Act} {n : Bool} (h : Home k st n) (l : Bool) : Disciplined (.api k .waiting :: st) l n
  | pollCalm {st : List Act} {n : Bool} (h : Calm st n) (plen : Nat) (p : LoopPhase) : Disciplined (.packetLoop plen p :: st) false n
  | pollWaiting {k : Api} {st : List Act} {n : Bool} (h : Home k st n) (plen : Nat) (p : LoopPhase) :
      Disciplined (.packetLoop plen p :: .api k .waiting :: st) true n
  /-- the callback has cleared `locked`, and its packet loop has not ended yet -/
  | closing {k : Api} {st : List Act} {n : Bool} (h : Home k st n) (plen : Nat) (u : Upcall) :
      Disciplined (.packetLoop plen (.closing u) :: .api k .waiting :: st) false n
  | closed {k : Api} {st : List Act} {n : Bool} (h : Home k st n) (plen : Nat) :
      Disciplined (.packetLoop plen .fin :: .api k .waiting :: st) false n
  | sniffer {st : List Act} {l : Bool} (h : Sniffed st l) (p : SniffPhase) (srcIp : Nat) : Disciplined (.sniffer p srcIp :: st) l true
  | toggleOn {st : List Act} {l : Bool} (h : Sniffed st l) (srcIp : Nat) :
      Disciplined (.toggle true :: .sniffer .lit srcIp :: st) l true

/-- The stack and the two flags of a configuration. -/
def WellStacked (st : List Act) (w : World) : Prop := Disciplined st w.dev.locked w.dev.snifferNested

/-! ## The two flags and the device functions -/

section flags

variable (d : Device)

/-- Setting the house's bit leaves the lock alone. -/
theorem setMyHouse_locked (v : Bool) : (setMyHouse v d).locked = d.locked := rfl

/-- It leaves `sniffer_nested` alone too. -/
theorem setMyHouse_snifferNested (v : Bool) : (setMyHouse v d).snifferNested = d.snifferNested := rfl

/-- Every parse callback clears `locked`. -/
theorem browserCallback_locked (cb : BrowserCallback) (buf : Nat) (status : Byte) (off len : Nat) :
    (browserCallback cb buf status off len d).locked = false := by cases cb <;> rfl

/-- The callbacks leave `sniffer_nested` alone. -/
theorem browserCallback_snifferNested (cb : BrowserCallback) (buf : Nat) (status : Byte) (off len : Nat) :
    (browserCallback cb buf status off len d).snifferNested = d.snifferNested := by
  cases cb with
  | macsParse =>
    simp only [browserCallback, macsParseCallback, snifferListenForMac]
    split <;> rfl
  | stateParse =>
    simp only [browserCallback, stateParseCallback]
    split
    · rfl
    · simp
  | apiSet => rfl

/-- Setting a timer leaves both flags alone. -/
theorem TimerStep.flags {st st' : List Act} {f : Device → Device} {d₀ : Device} (h : TimerStep st d₀ f st') (d : Device) :
    (f d).locked = d.locked ∧ (f d).snifferNested = d.snifferNested := by
  cases h <;> exact ⟨rfl, rfl⟩

end flags

/-! ## One step -/

/-- A packet loop moves on, from a place in front of the callback's end. -/
theorem Disciplined.advance {plen : Nat} {p : LoopPhase} {st : List Act} {l n : Bool}
    (h : Disciplined (.packetLoop plen p :: st) l n) (hc : ∀ u, p ≠ .closing u) (hf : p ≠ .fin) (p' : LoopPhase) :
    Disciplined (.packetLoop plen p' :: st) l n := by
  cases h with
  | calm h => cases h with
    | outer h => cases h
  | pollCalm h => exact .pollCalm h plen p'
  | pollWaiting h => exact .pollWaiting h plen p'
  | closing h _ u => exact absurd rfl (hc u)
  | closed h => exact absurd rfl hf

/-- A packet loop that is closing ends. -/
theorem Disciplined.finish {plen : Nat} {u : Upcall} {st : List Act} {l n : Bool}
    (h : Disciplined (.packetLoop plen (.closing u) :: st) l n) : Disciplined (.packetLoop plen .fin :: st) l n := by
  cases h with
  | calm h => cases h with
    | outer h => cases h
  | pollCalm h => exact .pollCalm h plen .fin
  | pollWaiting h => exact .pollWaiting h plen .fin
  | closing h => exact .closed h plen

/-- What the sniffer's callback stands on. -/
theorem Disciplined.sniffed {p : SniffPhase} {srcIp : Nat} {st : List Act} {l n : Bool}
    (h : Disciplined (.sniffer p srcIp :: st) l n) : Sniffed st l ∧ n = true := by
  cases h with
  | calm h => cases h with
    | outer h => cases h
  | sniffer h => exact ⟨h, rfl⟩

/-- Where only `loop` is open, both flags are clear. -/
theorem Disciplined.loop_flags {l n : Bool} (h : Disciplined [.loop] l n) : l = false ∧ n = false := by
  cases h with
  | calm h => cases h with
    | outer h => exact ⟨rfl, rfl⟩

/-- In `setup` itself both flags are clear. -/
theorem Disciplined.setup_flags {p : BootPhase} {l n : Bool} (h : Disciplined [.setup p] l n) : l = false ∧ n = false := by
  cases h with
  | calm h => cases h with
    | outer h => exact ⟨rfl, rfl⟩

/-- Between two calls of `loop` they are. -/
theorem Disciplined.idle_flags {l n : Bool} (h : Disciplined [] l n) : l = false ∧ n = false := by
  cases h with
  | idle => exact ⟨rfl, rfl⟩
  | calm h => cases h with
    | outer h => cases h

/-- At the top of a sweep they are. -/
theorem Disciplined.sweep_flags {base : Ip} {next : Nat} {st : List Act} {l n : Bool} (h : Disciplined (.sweep base next :: st) l n) :
    l = false ∧ n = false := by
  cases h with
  | calm h => cases h with
    | outer h => exact ⟨rfl, rfl⟩

/-- A sweep that goes on to another octet. -/
theorem Disciplined.sweep_next {base : Ip} {next : Nat} {st : List Act} {l n : Bool} (h : Disciplined (.sweep base next :: st) l n)
    (next' : Nat) : Disciplined (.sweep base next' :: st) l n := by
  cases h with
  | calm h => cases h with
    | outer h => cases h with
      | sweep => exact .calm (.outer (.sweep base next'))
      | lastDitch => exact .calm (.outer (.lastDitch base next'))

/-- In the absence branch they are, and below it there is only `loop`. -/
theorem Disciplined.absence_flags {p : AbsencePhase} {st : List Act} {l n : Bool} (h : Disciplined (.absence p :: st) l n) :
    st = [.loop] ∧ l = false ∧ n = false := by
  cases h with
  | calm h => cases h with
    | outer h => cases h
  | absence => exact ⟨rfl, rfl, rfl⟩

/-- A server call stands where it was made from, and the lock is free unless it waits. -/
theorem Disciplined.home {k : Api} {p : ApiPhase} {st : List Act} {l n : Bool} (h : Disciplined (.api k p :: st) l n) :
    Home k st n ∧ (p ≠ .waiting → l = false) := by
  cases h with
  | calm h => cases h with
    | outer h => cases h with
      | draining h => exact ⟨.outer h, fun _ => rfl⟩
    | inner h => exact ⟨h, fun _ => rfl⟩
  | calling h => exact ⟨h, fun _ => rfl⟩
  | armed h => exact ⟨h, fun _ => rfl⟩
  | waiting h => exact ⟨h, fun hp => absurd rfl hp⟩

/-- A call that is past its wait is one that polls with the lock free. -/
theorem Home.calm {k : Api} {st : List Act} {n : Bool} (h : Home k st n) : Calm (.api k .draining :: st) n := by
  cases h with
  | outer h => exact .outer (.draining h)
  | inner plen srcIp h => exact .inner (.inner plen srcIp h)

/-- The steps of the library keep the discipline. -/
theorem NetStep.disciplined {st st' : List Act} {d : Device} {note : Option Event} {f : Ether → Ether} {l n : Bool}
    (hs : NetStep st d note f st')
    (h : Disciplined st l n) : Disciplined st' l n := by
  cases hs with
  | log => exact h
  | dhcp => exact h.advance nofun nofun _
  | idle => exact h.advance nofun nofun _
  | ret => exact h.advance nofun nofun _
  | upcall => exact h.advance nofun nofun _
  | close => exact h.finish
  | browse k st =>
    obtain ⟨hh, hl⟩ := h.home
    rw [hl nofun]
    exact .armed hh
  | probe => exact h.sweep_next _
  | ping => exact h
  | icmp => exact h
  | boot => exact h

/-- The steps of the stack keep it. -/
theorem CtrlStep.disciplined {st st' : List Act} {d : Device} (hs : CtrlStep st d st')
    (h : Disciplined st d.locked d.snifferNested) : Disciplined st' d.locked d.snifferNested := by
  cases hs with
  | noDhcp => exact h.advance nofun nofun _
  | unheard => exact h.advance nofun nofun _
  | noParse => exact h.advance nofun nofun _
  | alight srcIp st =>
    obtain ⟨hs, hn⟩ := h.sniffed
    rw [hn]
    exact .sniffer hs .lit srcIp
  | drained k st hl =>
    rw [hl]
    exact .calm h.home.1.calm
  | skip => exact h.sweep_next _
  | absent =>
    obtain ⟨hl, hn⟩ := h.loop_flags
    rw [hl, hn]
    exact .absence .lastDitch
  | confirmed =>
    obtain ⟨_, hl, hn⟩ := h.absence_flags
    rw [hl, hn]
    exact .absence .confirmed
  | present =>
    obtain ⟨_, hl, hn⟩ := h.absence_flags
    rw [hl, hn]
    exact .calm (.outer .loop)

/-- What is left when a server call ends. -/
theorem Home.disciplined {k : Api} {st : List Act} {n : Bool} (h : Home k st n) : Disciplined st false n := by
  cases h with
  | outer h => cases h with
    | targetMac => exact .calm (.outer (.setup _))
    | bootState => exact .calm (.outer (.setup _))
    | sync => exact .calm (.outer .loop)
    | off => exact .absence .forgetting
  | inner plen srcIp h => exact .sniffer (.calm plen h) .lit srcIp

/-- Where a server call is made from: on the lower level with the lock free; on the upper one it is `api_set_on`, and the lock may be
taken. -/
theorem CallSite.disciplined {k : Api} {st st' : List Act} {l n : Bool} (hs : CallSite k st st') (h : Disciplined st l n) :
    (l = false → Home k st' n) ∧ (l = true → k = .on ∧ Disciplined st' l n) := by
  cases hs with
  | targetMac =>
    obtain ⟨hl, hn⟩ := h.setup_flags
    rw [hl, hn]
    exact ⟨fun _ => .outer .targetMac, nofun⟩
  | bootState =>
    obtain ⟨hl, hn⟩ := h.setup_flags
    rw [hl, hn]
    exact ⟨fun _ => .outer .bootState, nofun⟩
  | sync =>
    obtain ⟨hl, hn⟩ := h.loop_flags
    rw [hl, hn]
    exact ⟨fun _ => .outer .sync, nofun⟩
  | off =>
    cases h with
    | calm h => cases h with
      | outer h => cases h
    | toggleOff => exact ⟨fun _ => .outer .off, nofun⟩
  | on =>
    cases h with
    | calm h => cases h with
      | outer h => cases h
    | toggleOn h srcIp =>
      refine ⟨fun hl => ?_, fun _ => ⟨rfl, .sniffer h .lit srcIp⟩⟩
      cases h with
      | calm plen h => exact .inner plen srcIp h
      | waiting => cases hl

/-- The activation that a packet loop returns to. -/
theorem Disciplined.polled {plen : Nat} {st : List Act} {l n : Bool} (h : Disciplined (.packetLoop plen .fin :: st) l n) :
    Disciplined st l n := by
  cases h with
  | calm h => cases h with
    | outer h => cases h
  | pollCalm h => exact .calm h
  | pollWaiting h => exact .waiting h true
  | closed h => exact .waiting h false

/-- What is noted keeps it. -/
theorem MarkStep.disciplined {st st' : List Act} {d : Device} {ev : Event} (hs : MarkStep st d ev st')
    (h : Disciplined st d.locked d.snifferNested) : Disciplined st' d.locked d.snifferNested := by
  cases hs with
  | wdtReset => exact h
  | compared => exact h
  | ignored => exact h.advance nofun nofun _
  | hooked => exact h.advance nofun nofun _
  | abort hc hl => exact ((hc.disciplined h).2 hl).2
  | enter hc hl =>
    have hh := (hc.disciplined h).1 hl
    rw [hl]
    exact .calling hh
  | leave k st =>
    obtain ⟨hh, hl⟩ := h.home
    rw [hl nofun]
    exact hh.disciplined
  | polled => exact h.polled
  | loopBegin =>
    obtain ⟨hl, hn⟩ := h.idle_flags
    rw [hl, hn]
    exact .calm (.outer .loop)
  | loopEnd =>
    obtain ⟨hl, hn⟩ := h.loop_flags
    rw [hl, hn]
    exact .idle
  | setupEnd =>
    obtain ⟨hl, hn⟩ := h.setup_flags
    rw [hl, hn]
    exact .idle
  | sweepBegin =>
    obtain ⟨hl, hn⟩ := h.loop_flags
    rw [hl, hn]
    exact .calm (.outer (.sweep _ 1))
  | sweepEnd =>
    obtain ⟨hl, hn⟩ := h.sweep_flags
    rw [hl, hn]
    exact .calm (.outer .loop)
  | lastDitchBegin =>
    obtain ⟨_, hl, hn⟩ := h.absence_flags
    rw [hl, hn]
    exact .calm (.outer (.lastDitch _ 1))
  | lastDitchEnd =>
    obtain ⟨hl, hn⟩ := h.sweep_flags
    rw [hl, hn]
    exact .absence .swept

/-- A packet loop begins on an activation that polls. -/
theorem CanPoll.disciplined {st : List Act} {d : Device} (hp : CanPoll st d) (h : Disciplined st d.locked d.snifferNested)
    (plen : Nat) (p : LoopPhase) : Disciplined (.packetLoop plen p :: st) d.locked d.snifferNested := by
  cases hp with
  | setup =>
    obtain ⟨hl, hn⟩ := h.setup_flags
    rw [hl, hn]
    exact .pollCalm (.outer (.setup _)) plen p
  | loop =>
    obtain ⟨hl, hn⟩ := h.loop_flags
    rw [hl, hn]
    exact .pollCalm (.outer .loop) plen p
  | sweep base next st =>
    generalize d.locked = l, d.snifferNested = n at h ⊢
    cases h with
    | calm h => exact .pollCalm h plen p
  | waiting k st hl =>
    rw [hl]
    exact .pollWaiting h.home.1 plen p
  | draining k st =>
    obtain ⟨hh, hl⟩ := h.home
    rw [hl nofun]
    exact .pollCalm hh.calm plen p

/-- The sniffer's callback is worked through on the lower level only. -/
theorem Disciplined.sniff {plen : Nat} {st : List Act} {l : Bool} (h : Disciplined (.packetLoop plen .offered :: st) l false) :
    Sniffed (.packetLoop plen .hook :: st) l := by
  cases h with
  | calm h => cases h with
    | outer h => cases h
  | pollCalm h => cases h with
    | outer h => exact .calm plen h
  | pollWaiting h => cases h with
    | outer h => exact .waiting plen h

/-- What the sniffer's callback returns to is in order, with `sniffer_nested` clear. -/
theorem Sniffed.disciplined {st : List Act} {l : Bool} (h : Sniffed st l) : Disciplined st l false := by
  cases h with
  | calm plen h => exact .pollCalm (.outer h) plen .hook
  | waiting plen h => exact .pollWaiting (.outer h) plen .hook

/-- The parse callback clears `locked`, whoever waits. -/
theorem Disciplined.parse {plen : Nat} {u : Upcall} {st : List Act} {l n : Bool}
    (h : Disciplined (.packetLoop plen (.upcall u) :: st) l n) : Disciplined (.packetLoop plen (.closing u) :: st) false n := by
  cases h with
  | calm h => cases h with
    | outer h => cases h
  | pollCalm h => exact .pollCalm h plen _
  | pollWaiting h => exact .closing h plen u

/-- Each step keeps it. -/
theorem Step.wellStacked {st st' : List Act} {w w' : World} (hs : Step st w st' w') (h : WellStacked st w) :
    WellStacked st' w' := by
  unfold WellStacked at h ⊢
  cases hs with
  | tick => exact h
  | net hn =>
    rw [update_dev, note_dev]
    exact hn.disciplined h
  | ctrl hc => exact hc.disciplined h
  | mark hm => exact hm.disciplined h
  | timer ht =>
    simp only [update_dev, (ht.flags w.dev).1, (ht.flags w.dev).2]
    cases ht with
    | stamp srcIp st =>
      obtain ⟨hs, hn⟩ := h.sniffed
      rw [hn]
      exact .sniffer hs .stamped srcIp
    | pinger => exact h
    | pingsweep => exact h
    | lastDitch => exact h
    | sync => exact h
    | bootPinger => exact h
    | bootAbsense =>
      obtain ⟨hl, hn⟩ := h.setup_flags
      rw [hl, hn]
      exact .calm (.outer (.setup _))
    | bootPingsweep => exact h
    | bootSync => exact h
  | poll a hp => exact hp.disciplined h _ _
  | receive => exact h
  | sniff st hn hs hm =>
    rw [hn] at h
    exact .sniffer h.sniff .fresh _
  | toggleOn srcIp st hb =>
    obtain ⟨hs, hn⟩ := h.sniffed
    simp only [emit_dev, update_dev, setMyHouse_locked, setMyHouse_snifferNested, hn]
    exact .toggleOn hs srcIp
  | toggleOff st hb =>
    obtain ⟨rfl, hl, hn⟩ := h.absence_flags
    simp only [emit_dev, update_dev, setMyHouse_locked, setMyHouse_snifferNested, hl, hn]
    exact .toggleOff
  | learn => simpa [learnIp] using h
  | unsniff => exact h.sniffed.1.disciplined
  | requested => exact h.advance nofun nofun _
  | parse =>
    simp only [update_dev, browserCallback_locked, browserCallback_snifferNested]
    exact h.parse
  | lock k st => exact .waiting h.home.1 true
  | forget =>
    obtain ⟨rfl, hl, hn⟩ := h.absence_flags
    simp only [emit_dev, update_dev, forgetIp, saveStateToEeprom_locked, saveStateToEeprom_snifferNested, hl, hn]
    exact .calm (.outer .loop)
  | bootApiIp => exact h

/-! ## What is returned to -/

/-- What `toggle_house` stands on: the sniffer's callback, or the absence branch. -/
theorem Disciplined.toggle {v : Bool} {st : List Act} {l n : Bool} (h : Disciplined (.toggle v :: st) l n) :
    (∃ srcIp rest, st = .sniffer .lit srcIp :: rest) ∨ st = [.absence .forgetting, .loop] := by
  cases h with
  | calm h => cases h with
    | outer h => cases h
  | toggleOff => exact Or.inr rfl
  | toggleOn hs srcIp => exact Or.inl ⟨srcIp, _, rfl⟩

/-- What an activation stands on, and returns to: what polls, what has called the server, the hook, and the callback past its start. -/
inductive Resumes : List Act → Prop where
  | setup (p : BootPhase) : Resumes [.setup p]
  | loop : Resumes [.loop]
  | sweep (base : Ip) (next : Nat) (st : List Act) : Resumes (.sweep base next :: st)
  | forgetting (st : List Act) : Resumes (.absence .forgetting :: st)
  | waiting (k : Api) (st : List Act) : Resumes (.api k .waiting :: st)
  | draining (k : Api) (st : List Act) : Resumes (.api k .draining :: st)
  | hook (plen : Nat) (st : List Act) : Resumes (.packetLoop plen .hook :: st)
  | lit (srcIp : Nat) (st : List Act) : Resumes (.sniffer .lit srcIp :: st)

/-- Where a server call returns to can go on. -/
theorem Home.resumes {k : Api} {st : List Act} {n : Bool} (h : Home k st n) : Resumes st := by
  cases h with
  | outer h => cases h with
    | targetMac => exact .setup _
    | bootState => exact .setup _
    | sync => exact .loop
    | off => exact .forgetting _
  | inner plen srcIp h => exact .lit srcIp _

/-- So can what the sniffer's callback returns to. -/
theorem Sniffed.resumes {st : List Act} {l : Bool} (h : Sniffed st l) : Resumes st := by
  cases h with
  | calm plen h => exact .hook plen _
  | waiting plen h => exact .hook plen _

/-- So can what polls, once its packet loop is through. -/
theorem CanPoll.resumes {st : List Act} {d : Device} (h : CanPoll st d) : Resumes st := by
  cases h with
  | setup => exact .setup _
  | loop => exact .loop
  | sweep base next st => exact .sweep base next st
  | waiting k st => exact .waiting k st
  | draining k st => exact .draining k st

/-- A packet loop returns to what polls. -/
theorem Disciplined.resumes {plen : Nat} {p : LoopPhase} {st : List Act} {l n : Bool} (h : Disciplined (.packetLoop plen p :: st) l n) :
    Resumes st := by
  have hcalm : ∀ {st n}, Calm st n → Resumes st := by
    intro st n h
    cases h with
    | outer h => cases h with
      | setup => exact .setup _
      | loop => exact .loop
      | sweep => exact .sweep _ _ _
      | lastDitch => exact .sweep _ _ _
      | draining => exact .draining _ _
    | inner => exact .draining _ _
  cases h with
  | calm h => cases h with
    | outer h => cases h
  | pollCalm h => exact hcalm h
  | pollWaiting => exact .waiting _ _
  | closing => exact .waiting _ _
  | closed => exact .waiting _ _

/-- What a server call returns to, made or not. -/
theorem CallSite.resumes {k : Api} {st st' : List Act} {l n : Bool} (hc : CallSite k st st') (h : Disciplined st l n) :
    Resumes st' := by
  have htoggle : ∀ {v}, Disciplined (.toggle v :: st') l n → Resumes st' := by
    intro v h
    rcases h.toggle with ⟨srcIp, rest, rfl⟩ | rfl
    · exact .lit srcIp rest
    · exact .forgetting _
  cases hc with
  | targetMac => exact .setup _
  | bootState => exact .setup _
  | sync => exact .loop
  | on => exact htoggle h
  | off => exact htoggle h

/-- None of these is about to make a request. -/
theorem Resumes.not_calling {st : List Act} (h : Resumes st) : ∀ k rest, st ≠ .api k .calling :: rest := by
  rintro k rest rfl
  cases h

/-! ## Whole runs -/

/-- Where a run may begin: well stacked, with a trace that tells the stack, outside all server calls. -/
structure Start (I : List Act → World → Prop) : Prop where
  stacked : ∀ {st w}, I st w → WellStacked st w
  told : ∀ {st w}, I st w → openCalls w.trace = calls st
  bare : ∀ {st w}, I st w → apis st = [] ∧ openApis w.trace = []

/-- At power-on no call is open and neither flag is set. -/
theorem powerUp_start : Start PowerUp where
  stacked := by
    rintro st w ⟨rfl, eeprom, flash, rfl⟩
    simp only [WellStacked, loadedFrom, emit_dev, update_dev, readStateFromEeprom_locked, readStateFromEeprom_snifferNested]
    exact .calm (.outer (.setup _))
  told := by
    rintro st w ⟨rfl, eeprom, flash, rfl⟩
    rfl
  bare := by
    rintro st w ⟨rfl, eeprom, flash, rfl⟩
    exact ⟨rfl, rfl⟩

/-- Nor is there one where `loop` starts, from a device with both flags clear. -/
theorem loopFrom_start {d : Device} (hl : d.locked = false) (hn : d.snifferNested = false) : Start (LoopFrom d) where
  stacked := by
    rintro st w ⟨rfl, rfl⟩
    rw [WellStacked, hl, hn]
    exact .idle
  told := by
    rintro st w ⟨rfl, rfl⟩
    rfl
  bare := by
    rintro st w ⟨rfl, rfl⟩
    exact ⟨rfl, rfl⟩

/-- Every configuration that is reached is well stacked. -/
theorem Reach.wellStacked {I : List Act → World → Prop} (hI : Start I) {st : List Act} {w : World} (h : Reach I st w) :
    WellStacked st w :=
  h.invariant (fun _ _ => hI.stacked) fun _ _ _ _ _ h hs => hs.wellStacked h

/-- At every moment the trace tells the calls on the stack. -/
theorem Reach.openCalls {I : List Act → World → Prop} (hI : Start I) {st : List Act} {w : World} (h : Reach I st w) :
    EtherHouse.openCalls w.trace = calls st :=
  h.invariant (fun _ _ => hI.told) fun _ _ _ _ _ h hs => hs.openCalls h

end EtherHouse
