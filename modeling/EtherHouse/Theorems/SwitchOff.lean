import EtherHouse.Theorems.Sighting

/-!
# The house is switched off

What puts the house out: a reply with its bit clear, or the absence branch of `loop`. Here is what the branch has waited for by then:
how long ago the target was heard of, and the sweep between the two checks.
-/

namespace EtherHouse

/-! ## The sweep before the second check -/

/-- Where the sweeps of one call of `loop` stand: one is under way since a time, and the target was heard of in it or not; one has just
ended, and nothing but the watchdog has been served since; neither. -/
inductive SweepPhase where
  | none
  | under (start : Nat) (sighted : Bool)
  | ended (start stop : Nat) (sighted : Bool)
  deriving DecidableEq

def sweepPhase : Trace → SweepPhase
  | [] => .none
  | (.enter .pingSweep, d) :: _ => .under d.clock false
  | (.enter .loop, _) :: _ => .none
  | (.leave .loop, _) :: _ => .none
  | (.wdtReset, _) :: past => sweepPhase past
  | (.compared _ _, _) :: past => sweepPhase past
  | (.leave .pingSweep, d) :: past => match sweepPhase past with | .under start sighted => .ended start d.clock sighted | _ => .none
  | (.enter .sniffer, _) :: past => match sweepPhase past with | .under start _ => .under start true | _ => .none
  | _ :: past => match sweepPhase past with | .under start sighted => .under start sighted | _ => .none

/-! ## What is stamped stays stamped -/

/-- A stamp stays while the timer does. -/
theorem StampedSince.later {t : Nat} {d d' : Device} (h : StampedSince t d) (hc : d.clock ≤ d'.clock)
    (ha : d'.absenseTimer = d.absenseTimer) : StampedSince t d' := by
  obtain ⟨s, hts, hs, he⟩ := h
  exact ⟨s, hts, hs.trans hc, ha.trans he⟩

/-- No stamp lies ahead. -/
theorem StampedSince.le_clock {t : Nat} {d : Device} (h : StampedSince t d) : t ≤ d.clock := by
  obtain ⟨s, hts, hs, _⟩ := h
  exact hts.trans hs

/-- What is stamped now is stamped since any time before. -/
theorem stampedSince_millis {t : Nat} {d : Device} (h : t ≤ d.clock) : StampedSince t { d with absenseTimer := d.millis } :=
  ⟨d.clock, h, le_rfl, rfl⟩

/-- The clock does not go back. -/
theorem Step.clock {st st' : List Act} {w w' : World} (hs : Step st w st' w') : w.dev.clock ≤ w'.dev.clock := by
  cases hs with
  | tick ms => exact Nat.le_add_right _ ms
  | net hn => rw [update_dev, note_dev, net_clock]
  | ctrl => exact le_rfl
  | mark => exact le_rfl
  | timer ht => cases ht <;> exact le_rfl
  | poll => exact le_rfl
  | receive => exact le_rfl
  | sniff => exact le_rfl
  | toggleOn => exact le_rfl
  | toggleOff => exact le_rfl
  | learn => exact le_rfl
  | unsniff => exact le_rfl
  | requested => exact le_rfl
  | parse => rw [update_dev, (browserCallback_absenseTimer _ _ _ _ _ _).2, emit_dev]
  | lock => exact le_rfl
  | forget => exact le_rfl
  | bootApiIp => exact le_rfl

/-- `absense_timer` is left alone, or set to the clock by the callback or by boot. -/
theorem Step.absenseTimer {st st' : List Act} {w w' : World} (hs : Step st w st' w') :
    w'.dev.absenseTimer = w.dev.absenseTimer ∨ w' = w.update fun d => { d with absenseTimer := w.dev.millis } := by
  cases hs with
  | net hn => exact Or.inl (by rw [update_dev, note_dev, net_absenseTimer])
  | timer ht => cases ht with
    | stamp => exact Or.inr rfl
    | bootAbsense => exact Or.inr rfl
    | _ => exact Or.inl rfl
  | parse => exact Or.inl (by rw [update_dev, (browserCallback_absenseTimer _ _ _ _ _ _).1, emit_dev])
  | _ => exact Or.inl rfl

/-- No step sets the timer back. -/
theorem Step.stampedSince {st st' : List Act} {w w' : World} (hs : Step st w st' w') {t : Nat} (h : StampedSince t w.dev) :
    StampedSince t w'.dev := by
  rcases hs.absenseTimer with ha | rfl
  · exact h.later hs.clock ha
  · exact stampedSince_millis h.le_clock

/-! ## What is on record -/

/-- The callback has begun and has not read the clock yet. -/
def Fresh (st : List Act) : Prop :=
  match st with
  | .sniffer .fresh _ :: _ => True
  | _ => False

/-- What a step adds to the trace is no later than the step. -/
theorem Step.recorded {st st' : List Act} {w w' : World} (hs : Step st w st' w') :
    ∀ x ∈ w'.trace, x ∈ w.trace ∨ x.2.clock ≤ w'.dev.clock := by
  have hemit : ∀ {ev : Event} {d : Device} {past : Trace}, ∀ x ∈ (ev, d) :: past, x ∈ past ∨ x.2.clock ≤ d.clock := by
    intro ev d past x hx
    rcases List.mem_cons.mp hx with rfl | hx
    · exact Or.inr le_rfl
    · exact Or.inl hx
  cases hs with
  | @net _ _ _ note f hn =>
    cases note with
    | none => exact fun x hx => Or.inl hx
    | some ev => exact hemit
  | mark => exact hemit
  | poll a =>
    intro x hx
    rcases hemit x hx with hx | hx
    · exact hemit x hx
    · exact Or.inr hx
  | receive => exact hemit
  | sniff => exact hemit
  | toggleOn => exact hemit
  | toggleOff => exact hemit
  | learn => exact hemit
  | unsniff => exact hemit
  | requested => exact hemit
  | parse =>
    intro x hx
    rw [update_dev, (browserCallback_absenseTimer _ _ _ _ _ _).2, emit_dev]
    exact hemit x hx
  | forget => exact hemit
  | _ => exact fun x hx => Or.inl hx

/-- A sighting that a step adds has not been stamped yet. -/
theorem Step.sighting {st st' : List Act} {w w' : World} (hs : Step st w st' w') {d : Device} (hx : (.enter .sniffer, d) ∈ w'.trace) :
    (.enter .sniffer, d) ∈ w.trace ∨ Fresh st' := by
  have hemit : ∀ {ev : Event} {d' : Device} {past : Trace}, (.enter .sniffer, d) ∈ (ev, d') :: past → ev ≠ .enter .sniffer →
      (.enter .sniffer, d) ∈ past := by
    intro ev d' past hx hne
    rcases List.mem_cons.mp hx with hx | hx
    · exact absurd (congrArg Prod.fst hx).symm hne
    · exact hx
  cases hs with
  | net hn => cases hn with
    | dhcp => exact Or.inl (hemit hx nofun)
    | idle => exact Or.inl (hemit hx nofun)
    | probe => exact Or.inl (hemit hx nofun)
    | ping => exact Or.inl (hemit hx nofun)
    | _ => exact Or.inl hx
  | mark hm => cases hm <;> exact Or.inl (hemit hx nofun)
  | poll => exact Or.inl (hemit (hemit hx nofun) nofun)
  | sniff => exact Or.inr trivial
  | receive => exact Or.inl (hemit hx nofun)
  | toggleOn => exact Or.inl (hemit hx nofun)
  | toggleOff => exact Or.inl (hemit hx nofun)
  | learn => exact Or.inl (hemit hx nofun)
  | unsniff => exact Or.inl (hemit hx nofun)
  | requested => exact Or.inl (hemit hx nofun)
  | parse => exact Or.inl (hemit hx nofun)
  | forget => exact Or.inl (hemit hx nofun)
  | _ => exact Or.inl hx

/-- The callback reads the clock before anything else. -/
theorem Step.fresh {st st' : List Act} {w w' : World} (hs : Step st w st' w') (hf : Fresh st) :
    Fresh st' ∨ w' = w.update fun d => { d with absenseTimer := w.dev.millis } := by
  cases hs with
  | tick => exact Or.inl hf
  | net hn => cases hn with
    | log msg d hl =>
      unfold Fresh at hf
      split at hf
      · exact hl.elim
      · exact hf.elim
    | _ => exact hf.elim
  | ctrl hc => cases hc <;> exact hf.elim
  | mark hm => cases hm with
    | wdtReset => exact Or.inl hf
    | compared => exact Or.inl hf
    | abort hc => cases hc <;> exact hf.elim
    | enter hc => cases hc <;> exact hf.elim
    | _ => exact hf.elim
  | timer ht => cases ht with
    | stamp => exact Or.inr rfl
    | _ => exact hf.elim
  | poll a hp => cases hp <;> exact hf.elim
  | _ => exact hf.elim

/-- Boot is over. -/
theorem setup_mem_of_cons {c : Call} {cs : List Call} (hm : Call.setup ∈ c :: cs) (hc : c ≠ .setup) : Call.setup ∈ cs :=
  (List.mem_cons.mp hm).resolve_left hc.symm

/-- Boot is left by its end only. -/
theorem Step.booted {st st' : List Act} {w w' : World} (hs : Step st w st' w') (hb : Call.setup ∉ calls st') :
    Call.setup ∉ calls st ∨ w' = w.emit (.leave .setup) := by
  cases hs with
  | net hn => exact Or.inl (hn.calls ▸ hb)
  | ctrl hc => exact Or.inl (hc.calls ▸ hb)
  | mark hm => cases hm with
    | setupEnd => exact Or.inr rfl
    | abort hc => exact Or.inl (hc.calls ▸ hb)
    | enter hc =>
      refine Or.inl fun hm => hb (List.mem_cons_of_mem _ ?_)
      rw [← hc.calls] at hm
      exact hm
    | leave => exact Or.inl fun hm => hb (setup_mem_of_cons hm (by intro he; cases he))
    | polled => exact Or.inl fun hm => hb (setup_mem_of_cons hm (by intro he; cases he))
    | _ => exact Or.inl (by simp [calls, Act.call] at hb ⊢; try exact hb)
  | timer ht => exact Or.inl (ht.calls ▸ hb)
  | poll => exact Or.inl fun hm => hb (List.mem_cons_of_mem _ hm)
  | sniff => exact Or.inl fun hm => hb (List.mem_cons_of_mem _ hm)
  | unsniff => exact Or.inl fun hm => hb (setup_mem_of_cons hm (by intro he; cases he))
  | _ => exact Or.inl hb

/-- The times on record: none lies ahead, every sighting is stamped or about to be, and so is boot's own start of the timer. -/
structure Dated (st : List Act) (w : World) : Prop where
  past : ∀ x ∈ w.trace, x.2.clock ≤ w.dev.clock
  counted : StampedSince 0 w.dev
  sighted : ∀ d, (.enter .sniffer, d) ∈ w.trace → StampedSince d.clock w.dev ∨ Fresh st
  started : Call.setup ∉ calls st → ∃ d, (.leave .setup, d) ∈ w.trace ∧ StampedSince d.absenseTimer.toNat w.dev

/-- Each step keeps the times on record. -/
theorem Step.dated {st st' : List Act} {w w' : World} (hs : Step st w st' w') (h : Dated st w) : Dated st' w' where
  past := fun x hx => by
    rcases hs.recorded x hx with hx | hx
    · exact (h.past x hx).trans hs.clock
    · exact hx
  counted := hs.stampedSince h.counted
  sighted := fun d hx => by
    rcases hs.sighting hx with hx | hf
    · rcases h.sighted d hx with hsince | hf
      · exact Or.inl (hs.stampedSince hsince)
      · rcases hs.fresh hf with hf | rfl
        · exact Or.inr hf
        · exact Or.inl (stampedSince_millis (h.past _ hx))
    · exact Or.inr hf
  started := fun hb => by
    rcases hs.booted hb with hb | rfl
    · obtain ⟨d, hd, hsince⟩ := h.started hb
      exact ⟨d, hs.trace_suffix.subset hd, hs.stampedSince hsince⟩
    · obtain ⟨t, _, ht, he⟩ := h.counted
      refine ⟨w.dev, List.mem_cons_self, t, ?_, ht, he⟩
      rw [he, BitVec.toNat_ofNat]
      exact Nat.mod_le _ _

/-- So they are in order wherever a run has got. -/
theorem Reach.dated {st : List Act} {w : World} (h : Reach PowerUp st w) : Dated st w := by
  refine h.invariant (fun st w hi => ?_) fun st w st' w' _ hd hs => hs.dated hd
  obtain ⟨rfl, eeprom, flash, rfl⟩ := hi
  have htrace : ∀ x ∈ (loadedFrom ⟨powerOn eeprom flash, []⟩).trace, x.1 ≠ .enter .sniffer ∧ x.2.clock = 0 := by
    simp [loadedFrom, powerOn]
  constructor
  · exact fun x hx => by simp [htrace x hx]
  · exact ⟨0, le_rfl, Nat.zero_le _, by simp [loadedFrom, powerOn]⟩
  · exact fun d hd => absurd rfl (htrace _ hd).1
  · exact fun hb => absurd List.mem_cons_self hb

/-! ## Between the two checks -/

/-- The latest clock that the timer can still be added to. -/
def LAST_CLOCK : Nat := 2 ^ 31 - ABSENSE_TIMEOUT.toNat

/-- The branch is past its sweep. -/
def PastSweep (st : List Act) : Prop :=
  match st with
  | .absence .swept :: _ => True
  | .absence .confirmed :: _ => True
  | _ => False

/-- A sweep is on the stack. -/
def Sweeping (st : List Act) : Prop := Call.pingSweep ∈ calls st

/-- What the trace tells of a sweep on the stack, and of the one before the second check; a sighting in it is stamped or about to be. Past
the second check the timer has run out. -/
structure Swept (st : List Act) (w : World) : Prop where
  under : Sweeping st → ∃ start sighted, sweepPhase w.trace = .under start sighted ∧ start ≤ w.dev.clock ∧
    (sighted = true → StampedSince start w.dev ∨ Fresh st)
  ended : PastSweep st → ∃ start stop sighted, sweepPhase w.trace = .ended start stop sighted ∧
    (sighted = true → StampedSince start w.dev)
  overdue : ∀ rest, st = .absence .confirmed :: rest → w.dev.clock < LAST_CLOCK →
    w.dev.absenseTimer.toNat + ABSENSE_TIMEOUT.toNat < w.dev.clock

/-- The events that leave a sweep as it is. -/
def Event.duringSweep : Event → Bool
  | .enter .pingSweep => false
  | .leave .pingSweep => false
  | .enter .loop => false
  | .leave .loop => false
  | .enter .sniffer => false
  | _ => true

/-- Within a sweep most events change nothing. -/
theorem sweepPhase_duringSweep {ev : Event} {d : Device} {past : Trace} {start : Nat} {sighted : Bool} (he : ev.duringSweep = true)
    (hu : sweepPhase past = .under start sighted) : sweepPhase ((ev, d) :: past) = .under start sighted := by
  cases ev with
  | enter c => cases c <;> simp [Event.duringSweep] at he <;> simp [sweepPhase, hu]
  | leave c => cases c <;> simp [Event.duringSweep] at he <;> simp [sweepPhase, hu]
  | _ => simp [sweepPhase, hu]

/-- A step that leaves the sweeps on the stack and in the trace as they are, and ends outside the second check. -/
theorem Swept.move {st st' : List Act} {w w' : World} (h : Swept st w) (hs : Step st w st' w') (hm : Sweeping st' → Sweeping st)
    (ht : ∀ start sighted, sweepPhase w.trace = .under start sighted → sweepPhase w'.trace = .under start sighted)
    (hp : ¬PastSweep st') : Swept st' w' where
  under := fun hsweep => by
    obtain ⟨start, sighted, hu, hle, hsince⟩ := h.under (hm hsweep)
    refine ⟨start, sighted, ht start sighted hu, hle.trans hs.clock, fun hsight => ?_⟩
    rcases hsince hsight with hsince | hf
    · exact Or.inl (hs.stampedSince hsince)
    · rcases hs.fresh hf with hf | rfl
      · exact Or.inr hf
      · exact Or.inl (stampedSince_millis hle)
  ended := fun hended => absurd hended hp
  overdue := fun rest he => by
    subst he
    exact absurd trivial hp

/-- A step on the same stack that leaves the sweeps and the timer alone. -/
theorem Swept.stay {st : List Act} {w w' : World} (h : Swept st w) (hs : Step st w st w') (ht : sweepPhase w'.trace = sweepPhase w.trace)
    (ha : w'.dev.absenseTimer = w.dev.absenseTimer) : Swept st w' where
  under := fun hsweep => by
    obtain ⟨start, sighted, hu, hle, hsince⟩ := h.under hsweep
    exact ⟨start, sighted, ht.trans hu, hle.trans hs.clock, fun hsight => (hsince hsight).imp_left hs.stampedSince⟩
  ended := fun hended => by
    obtain ⟨start, stop, sighted, ho, hsince⟩ := h.ended hended
    exact ⟨start, stop, sighted, ht.trans ho, fun hsight => hs.stampedSince (hsince hsight)⟩
  overdue := fun rest he hlast => by
    have hc := hs.clock
    have hdue := h.overdue rest he (by omega)
    rw [ha]
    omega

/-- The check of the absence branch, as long as the clock is small enough. -/
theorem overdue_of_check {d : Device} (hs : StampedSince 0 d) (hc : d.millis > d.absenseTimer + ABSENSE_TIMEOUT)
    (hlast : d.clock < LAST_CLOCK) : d.absenseTimer.toNat + ABSENSE_TIMEOUT.toNat < d.clock := by
  obtain ⟨t, _, ht, he⟩ := hs
  have hT : ABSENSE_TIMEOUT.toNat = 900000 := rfl
  unfold LAST_CLOCK at hlast
  rw [gt_iff_lt, BitVec.lt_def, BitVec.toNat_add, Device.millis, BitVec.toNat_ofNat, Nat.mod_eq_of_lt (a := d.clock) (by omega)] at hc
  have htimer : d.absenseTimer.toNat = t := by rw [he, BitVec.toNat_ofNat, Nat.mod_eq_of_lt (by omega)]
  rw [htimer] at hc ⊢
  rwa [Nat.mod_eq_of_lt (by omega)] at hc

/-- What is returned to is not past the sweep. -/
theorem Resumes.not_pastSweep {st : List Act} (h : Resumes st) : ¬PastSweep st := by
  cases h <;> exact id

/-- Whether a sweep is under way is seen from the calls. -/
theorem sweeping_of_calls {st st' : List Act} (h : calls st' = calls st) : Sweeping st' → Sweeping st := by
  unfold Sweeping
  rw [h]
  exact id

/-- The steps of the library keep what the trace tells of the sweep. -/
theorem NetStep.swept {st st' : List Act} {w : World} {note : Option Event} {f : Ether → Ether} (hn : NetStep st w.dev note f st')
    (h : Swept st w) : Swept st' ((w.note note).update (Device.net f)) := by
  have hs : Step st w st' ((w.note note).update (Device.net f)) := .net hn
  have hcalls := hn.calls
  have ht : ∀ start sighted, sweepPhase w.trace = .under start sighted → sweepPhase (w.note note).trace = .under start sighted := by
    intro start sighted hu
    cases hn with
    | dhcp => exact sweepPhase_duringSweep rfl hu
    | idle => exact sweepPhase_duringSweep rfl hu
    | probe => exact sweepPhase_duringSweep rfl hu
    | ping => exact sweepPhase_duringSweep rfl hu
    | _ => exact hu
  cases hn with
  | log => exact h.stay hs rfl rfl
  | _ => exact h.move hs (sweeping_of_calls hcalls) ht id

/-- The checks of the branch keep it: the timer has run out where they pass. -/
theorem CtrlStep.swept {st st' : List Act} {w : World} (hc : CtrlStep st w.dev st') (h : Swept st w)
    (hcount : StampedSince 0 w.dev) : Swept st' w := by
  have hs : Step st w st' w := .ctrl hc
  have hcalls := hc.calls
  cases hc with
  | confirmed hb hcheck =>
    constructor
    · exact fun hm => absurd hm (by simp [Sweeping, EtherHouse.calls, Act.call])
    · exact fun _ => h.ended trivial
    · exact fun _ _ hlast => overdue_of_check hcount hcheck hlast
  | _ => exact h.move hs (sweeping_of_calls hcalls) (fun _ _ => id) id

/-- Outside the sweeps and the absence branch behind its sweep. -/
theorem swept_outside {st : List Act} {w : World} (hm : ¬Sweeping st) (hp : ¬PastSweep st) : Swept st w where
  under := fun hsweep => absurd hsweep hm
  ended := fun hended => absurd hended hp
  overdue := fun rest he => by
    subst he
    exact absurd trivial hp

/-- A sweep begins. -/
theorem swept_begin {base : Ip} {rest : List Act} {w : World} : Swept (.sweep base 1 :: rest) (w.emit (.enter .pingSweep)) where
  under := fun _ => ⟨w.dev.clock, false, rfl, le_rfl, fun hsight => absurd hsight Bool.false_ne_true⟩
  ended := fun hended => hended.elim
  overdue := fun _ he => by cases he

/-- What is noted keeps it. -/
theorem MarkStep.swept {st st' : List Act} {w : World} {ev : Event} (hm : MarkStep st w.dev ev st') (hw : WellStacked st w)
    (h : Swept st w) : Swept st' (w.emit ev) := by
  have hs : Step st w st' (w.emit ev) := .mark hm
  cases hm with
  | wdtReset => exact h.stay hs rfl rfl
  | compared => exact h.stay hs rfl rfl
  | sweepBegin => exact swept_begin
  | lastDitchBegin => exact swept_begin
  | lastDitchEnd =>
    obtain ⟨start, sighted, hu, hle, hsince⟩ := h.under List.mem_cons_self
    constructor
    · exact fun hm => absurd hm (by simp [Sweeping, EtherHouse.calls, Act.call])
    · refine fun _ => ⟨start, w.dev.clock, sighted, ?_, fun hsight => (hsince hsight).resolve_right id⟩
      simp [sweepPhase, hu]
    · intro _ he
      cases he
  | sweepEnd => exact swept_outside (by simp [Sweeping, EtherHouse.calls, Act.call]) id
  | loopBegin => exact swept_outside (by simp [Sweeping, EtherHouse.calls, Act.call]) id
  | loopEnd => exact swept_outside (by simp [Sweeping, EtherHouse.calls, Act.call]) id
  | setupEnd => exact swept_outside (by simp [Sweeping, EtherHouse.calls, Act.call]) id
  | abort hc => exact h.move hs (sweeping_of_calls hc.calls) (fun _ _ => sweepPhase_duringSweep rfl) (hc.resumes hw).not_pastSweep
  | enter hc =>
    refine h.move hs (fun hm => sweeping_of_calls hc.calls ?_) (fun _ _ => sweepPhase_duringSweep rfl) id
    refine (List.mem_cons.mp hm).resolve_left fun he => ?_
    cases he
  | leave k st =>
    exact h.move hs (List.mem_cons_of_mem _) (fun _ _ => sweepPhase_duringSweep rfl) hw.home.1.resumes.not_pastSweep
  | polled plen st =>
    exact h.move hs (List.mem_cons_of_mem _) (fun _ _ => sweepPhase_duringSweep rfl) hw.resumes.not_pastSweep
  | ignored => exact h.move hs (by simp [Sweeping, EtherHouse.calls, Act.call]) (fun _ _ => sweepPhase_duringSweep rfl) id
  | hooked => exact h.move hs (by simp [Sweeping, EtherHouse.calls, Act.call]) (fun _ _ => sweepPhase_duringSweep rfl) id

/-- The callback begins, in a sweep or not. -/
theorem Swept.sniff {plen srcIp : Nat} {st : List Act} {w : World} (h : Swept (.packetLoop plen .offered :: st) w) :
    Swept (.sniffer .fresh srcIp :: .packetLoop plen .hook :: st)
      ((w.emit (.enter .sniffer)).update fun d => { d with snifferNested := true }) where
  under := fun hm => by
    obtain ⟨start, sighted, hu, hle, _⟩ := h.under ((List.mem_cons.mp hm).resolve_left (by decide))
    refine ⟨start, true, ?_, hle, fun _ => Or.inr trivial⟩
    simp [sweepPhase, hu]
  ended := fun hp => hp.elim
  overdue := nofun

/-- Each step keeps it. -/
theorem Step.swept {st st' : List Act} {w w' : World} (hs : Step st w st' w') (hw : WellStacked st w) (hd : Dated st w)
    (h : Swept st w) : Swept st' w' := by
  have hs' := hs
  cases hs with
  | tick => exact h.stay hs' rfl rfl
  | net hn => exact hn.swept h
  | ctrl hc => exact hc.swept h hd.counted
  | mark hm => exact hm.swept hw h
  | timer ht => cases ht <;> exact h.move hs' (by simp [Sweeping, EtherHouse.calls, Act.call]) (fun _ _ => id) id
  | poll =>
    refine h.move hs' (by simp [Sweeping, EtherHouse.calls, Act.call]) (fun start sighted hu => ?_) id
    exact sweepPhase_duringSweep rfl (sweepPhase_duringSweep rfl hu)
  | receive => exact h.move hs' id (fun _ _ => sweepPhase_duringSweep rfl) id
  | sniff => exact h.sniff
  | toggleOn => exact h.move hs' (by simp [Sweeping, EtherHouse.calls, Act.call]) (fun _ _ => sweepPhase_duringSweep rfl) id
  | toggleOff => exact h.move hs' (by simp [Sweeping, EtherHouse.calls, Act.call]) (fun _ _ => sweepPhase_duringSweep rfl) id
  | learn => exact h.move hs' (by simp [Sweeping, EtherHouse.calls, Act.call]) (fun _ _ => sweepPhase_duringSweep rfl) id
  | unsniff srcIp st =>
    exact h.move hs' (List.mem_cons_of_mem _) (fun _ _ => sweepPhase_duringSweep rfl) hw.sniffed.1.resumes.not_pastSweep
  | requested => exact h.move hs' (by simp [Sweeping, EtherHouse.calls, Act.call]) (fun _ _ => sweepPhase_duringSweep rfl) id
  | parse => exact h.move hs' (by simp [Sweeping, EtherHouse.calls, Act.call]) (fun _ _ => sweepPhase_duringSweep rfl) id
  | lock => exact h.move hs' (by simp [Sweeping, EtherHouse.calls, Act.call]) (fun _ _ => id) id
  | forget =>
    obtain ⟨rfl, _⟩ := hw.absence_flags
    exact h.move hs' (by simp [Sweeping, EtherHouse.calls, Act.call]) (fun _ _ => sweepPhase_duringSweep rfl) id
  | bootApiIp => exact h.stay hs' rfl rfl

/-- So it holds wherever a run has got. -/
theorem Reach.swept {st : List Act} {w : World} (h : Reach PowerUp st w) : Swept st w := by
  refine h.invariant (fun st w hi => ?_) fun st w st' w' hr hsw hs => hs.swept (hr.wellStacked powerUp_start) hr.dated hsw
  obtain ⟨rfl, eeprom, flash, rfl⟩ := hi
  exact ⟨fun hm => absurd hm (by simp [Sweeping, EtherHouse.calls, Act.call]), fun hp => hp.elim, nofun⟩

/-! ## What puts the house out -/

/-- The house was on at the last event, and is off. -/
def Falls (d : Device) (past : Trace) : Prop :=
  past.head?.any (fun x => bitRead x.2.state MY_ID) = true ∧ bitRead d.state MY_ID = false

/-- The last event is a sync's reply whose byte has the bit clear. -/
def ByReply : Trace → Prop
  | (.parsed .stateParse _ payload, _) :: _ => ∃ b, storedByte payload = some b ∧ bitRead b MY_ID = false
  | _ => False

/-- Whether the house falls depends on its bit. -/
theorem Falls.same {d d' : Device} {past : Trace} (h : Falls d' past) (hs : d'.state = d.state) : Falls d past := ⟨h.1, hs ▸ h.2⟩

/-- The last event was noted with the house as it is. -/
theorem not_falls {ev : Event} {d d' : Device} {past : Trace} (hs : d'.state = d.state) : ¬Falls d' ((ev, d) :: past) := by
  rintro ⟨hon, hoff⟩
  have hon' : bitRead d.state MY_ID = true := hon
  rw [hs, hon'] at hoff
  cases hoff

/-- Between two events the house goes out by a reply only. -/
def Lasting (w : World) : Prop := Falls w.dev w.trace → ByReply w.trace

/-- A step that changes neither bit nor trace. -/
theorem Lasting.same {w w' : World} (h : Lasting w) (ht : w'.trace = w.trace) (hs : w'.dev.state = w.dev.state) : Lasting w' := by
  intro hf
  rw [ht] at hf ⊢
  exact h (hf.same hs)

/-- A parse callback puts the house out by its reply only. -/
theorem Lasting.parse {w : World} (cb : BrowserCallback) (buf : Nat) (status : Byte) (off len : Nat) :
    Lasting ((w.emit (.parsed cb status (w.dev.ether.buffer.slice off len))).update (browserCallback cb buf status off len)) := by
  by_cases hcb : cb = .stateParse
  · subst hcb
    rcases stateParseCallback_storedByte w.dev off len buf status with ⟨_, hc⟩ | ⟨b, hb, hc⟩
    · refine fun hf => (not_falls ?_ hf).elim
      rw [update_dev, emit_dev, browserCallback, hc]
    · intro hf
      have hoff := hf.2
      rw [update_dev, emit_dev, browserCallback, hc] at hoff
      exact ⟨b, hb, hoff⟩
  · obtain ⟨mac, sniffers, hc⟩ := browserCallback_other hcb buf status off len w.dev
    refine fun hf => (not_falls ?_ hf).elim
    rw [update_dev, emit_dev, hc]

/-- Each step keeps it. -/
theorem Step.lasting {st st' : List Act} {w w' : World} (hs : Step st w st' w') (h : Lasting w) : Lasting w' := by
  cases hs with
  | tick => exact h.same rfl rfl
  | @net _ _ _ note f hn =>
    cases note with
    | none => exact h.same rfl rfl
    | some ev => exact fun hf => (not_falls rfl hf).elim
  | ctrl => exact h
  | mark => exact fun hf => (not_falls rfl hf).elim
  | timer ht => cases ht <;> exact h.same rfl rfl
  | parse => exact Lasting.parse _ _ _ _ _
  | lock => exact h.same rfl rfl
  | bootApiIp => exact h.same rfl rfl
  | poll => exact fun hf => (not_falls rfl hf).elim
  | receive => exact fun hf => (not_falls rfl hf).elim
  | sniff => exact fun hf => (not_falls rfl hf).elim
  | toggleOn => exact fun hf => (not_falls rfl hf).elim
  | toggleOff => exact fun hf => (not_falls rfl hf).elim
  | learn => exact fun hf => (not_falls rfl hf).elim
  | unsniff => exact fun hf => (not_falls rfl hf).elim
  | requested => exact fun hf => (not_falls rfl hf).elim
  | forget => exact fun hf => (not_falls rfl hf).elim

/-- So it holds wherever a run has got. -/
theorem Reach.lasting {st : List Act} {w : World} (h : Reach PowerUp st w) : Lasting w := by
  refine h.invariant (fun st w hi => ?_) fun st w st' w' _ hl hs => hs.lasting hl
  obtain ⟨rfl, eeprom, flash, rfl⟩ := hi
  exact fun hf => (not_falls rfl hf).elim

/-- What the absence branch has waited for when it switches the house off: in the same call of `loop` a whole sweep, and since then nothing
but the watchdog has been served; and neither the callback nor boot has started `absense_timer` within `ABSENSE_TIMEOUT`, nor has the
callback begun in the sweep, if that is no longer ago. -/
structure TimedOut (d : Device) (past : Trace) : Prop where
  inLoop : openCalls past = [.loop]
  unsighted : ∀ d₁, (.enter .sniffer, d₁) ∈ past → d₁.clock + ABSENSE_TIMEOUT.toNat < d.clock
  started : ∃ d₁, (.leave .setup, d₁) ∈ past ∧ d₁.absenseTimer.toNat + ABSENSE_TIMEOUT.toNat < d.clock
  swept : ∃ start stop sighted, sweepPhase past = .ended start stop sighted ∧
    (d.clock ≤ start + ABSENSE_TIMEOUT.toNat → sighted = false)

/-- The absence branch switches the house off. -/
theorem Reach.timedOut {st : List Act} {w : World} (h : Reach PowerUp (.absence .confirmed :: st) w)
    (hlast : w.dev.clock < LAST_CLOCK) : TimedOut w.dev w.trace := by
  have hdue := h.swept.overdue st rfl hlast
  have hpast : ∀ {t}, StampedSince t w.dev → t + ABSENSE_TIMEOUT.toNat < w.dev.clock := by
    intro t hs
    have hle := hs.le_toNat (by unfold LAST_CLOCK at hlast; omega)
    omega
  obtain ⟨rfl, _⟩ := (h.wellStacked powerUp_start).absence_flags
  constructor
  · rw [h.openCalls powerUp_start]
    rfl
  · intro d hd
    exact hpast ((h.dated.sighted d hd).resolve_right id)
  · obtain ⟨d, hd, hs⟩ := h.dated.started (by decide)
    exact ⟨d, hd, hpast hs⟩
  · obtain ⟨start, stop, sighted, he, hs⟩ := h.swept.ended trivial
    refine ⟨start, stop, sighted, he, fun hclose => ?_⟩
    cases sighted with
    | false => rfl
    | true =>
      have hlate := hpast (hs rfl)
      omega

/-- In every run from power-on, whenever the house has gone out since the last event: that was a sync's reply with its bit clear, or it is
the absence branch of `loop` that has just switched it off; and as long as the clock is below `LAST_CLOCK` it has waited. -/
theorem switched_off_by (eeprom flash : Nat → Byte) (tape : List Input) :
    Always (fun ev d past => Falls d past →
      ByReply past ∨ (ev = .toggled MY_ID false ∧ (d.clock < LAST_CLOCK → TimedOut d past))) (run eeprom flash tape).trace ∧
      (Falls (run eeprom flash tape).dev (run eeprom flash tape).trace → ByReply (run eeprom flash tape).trace) := by
  obtain ⟨st, hr⟩ := run_reached eeprom flash tape
  refine ⟨hr.always ?_ fun st w ev d past hr hn => ?_, hr.lasting⟩
  · rintro st w ⟨rfl, eeprom, flash, rfl⟩
    refine ⟨fun hf => ?_, fun hf => (not_falls rfl hf).elim, fun hf => ?_, trivial⟩
    · exact absurd hf.1 (by simp [powerOn, bitRead])
    · exact absurd hf.1 (by simp)
  · have hsame : ∀ {d : Device}, d.state = w.dev.state → Falls d w.trace →
        ByReply w.trace ∨ (ev = .toggled MY_ID false ∧ (d.clock < LAST_CLOCK → TimedOut d w.trace)) :=
      fun hs hf => Or.inl (hr.lasting (hf.same hs))
    cases hn with
    | net => exact hsame rfl
    | mark => exact hsame rfl
    | received => exact hsame rfl
    | poll => exact fun hf => (not_falls rfl hf).elim
    | sniff => exact hsame rfl
    | toggleOn =>
      intro hf
      have hoff := hf.2
      rw [setMyHouse, syncLeds_state, bitRead_bitWrite_self _ true (by decide)] at hoff
      cases hoff
    | toggleOff st =>
      refine fun _ => Or.inr ⟨rfl, fun hlast => ?_⟩
      have ht := hr.timedOut hlast
      exact ⟨ht.inLoop, ht.unsighted, ht.started, ht.swept⟩
    | learn => exact hsame rfl
    | unsniff => exact hsame rfl
    | requested => exact hsame rfl
    | parse => exact hsame rfl
    | forget => exact hsame rfl

/-- The target is silent until the sweep, is heard of in it, and sixteen minutes pass between the sweep and the second check. -/
def lateCheck : List Input :=
  bootWith 0x01 ++ idlePoll ++ passes 1000000 ++ silence 4 ++ (silence 2 ++ framePoll phoneDatagram ++ silence 1 ++ passes 5) ++
    (List.replicate 252 [quiet, { elapsed := 5 }]).flatten ++ passes 1000000

set_option maxRecDepth 10000 in
/-- The house is switched off, though the sweep itself was short. -/
theorem lateCheck_sighted :
    ¬Always (fun ev d past => Falls d past → ByReply past ∨ (ev = .toggled MY_ID false ∧ (d.clock < LAST_CLOCK →
      ∃ start stop sighted, sweepPhase past = .ended start stop sighted ∧
        (stop < start + ABSENSE_TIMEOUT.toNat → sighted = false)))) (run blank blank lateCheck).trace := by
  have hrun : ¬Always (fun _ d past => (past.head?.any fun x => bitRead x.2.state MY_ID && decide (x.1 = .compared x.2.absenseTimer ABSENSE_TIMEOUT)) = true →
      bitRead d.state MY_ID = false → d.clock < LAST_CLOCK → (match sweepPhase past with
        | .ended start stop sighted => !decide (stop < start + ABSENSE_TIMEOUT.toNat) || !sighted
        | _ => false) = true) (run blank blank lateCheck).trace := by
    decide +kernel
  refine fun h => hrun (h.mono fun ev d past hp hhead hoff hlast => ?_)
  cases past with
  | nil => cases hhead
  | cons x past =>
    obtain ⟨ev₁, d₁⟩ := x
    obtain ⟨hon, hcheck⟩ : bitRead d₁.state MY_ID = true ∧ ev₁ = .compared d₁.absenseTimer ABSENSE_TIMEOUT := by simpa using hhead
    subst hcheck
    obtain ⟨_, ht⟩ := (hp ⟨hon, hoff⟩).resolve_left id
    obtain ⟨start, stop, sighted, he, hs⟩ := ht hlast
    rw [he]
    by_cases hshort : stop < start + ABSENSE_TIMEOUT.toNat
    · simp [hs hshort]
    · simp [hshort]

end EtherHouse
