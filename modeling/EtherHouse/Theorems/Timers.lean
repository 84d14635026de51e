import EtherHouse.Theorems.SwitchOff

/-!
# Timer arithmetic

The timers of `loop` are signed, the clock is not. As long as `setup` has ended within a day and no `loop` has taken 2^30 milliseconds,
the sums and comparisons of `loop` are those of the integers.
-/

namespace EtherHouse

/-- The latest time at which `loop` can begin, in a run that is not too slow. -/
def REBOOT_CLOCK : Nat := REBOOT_INTERVAL.toNat

/-- How long a `loop` may take. -/
def LOOP_LIMIT : Nat := 2 ^ 30

/-- When the `loop` that is open began. -/
def loopStart : Trace → Option Nat
  | [] => none
  | (.enter .loop, d) :: _ => some d.clock
  | (.leave .loop, _) :: _ => none
  | _ :: past => loopStart past

/-- `setup` has ended in time, and no `loop` has taken too long. -/
def Brisk (tr : Trace) : Prop :=
  Always (fun ev d past => (ev = .leave .setup → d.clock < REBOOT_CLOCK) ∧ ∀ s, loopStart past = some s → d.clock < s + LOOP_LIMIT) tr

instance (tr : Trace) : Decidable (Brisk tr) :=
  decidable_of_iff (Always (fun ev d past => (ev = .leave .setup → d.clock < REBOOT_CLOCK) ∧
    (loopStart past).all (fun s => decide (d.clock < s + LOOP_LIMIT)) = true) tr) <| by
    simp only [Brisk, Option.all_eq_true, decide_eq_true_eq]

/-- A comparison with the clock that neither overflows nor goes wrong. -/
structure ExactComparison (d : Device) (timer interval : Long) : Prop where
  noOverflow : timer.saddOverflow interval = false
  exact : d.millis > timer + interval ↔ (d.clock : Int) > timer.toInt + interval.toInt

/-! ## Words and integers -/

/-- In time, `millis` is the clock. -/
theorem toNat_millis {d : Device} (h : d.clock < 2 ^ 31) : d.millis.toNat = d.clock := by
  rw [Device.millis, BitVec.toNat_ofNat]
  exact Nat.mod_eq_of_lt (by omega)

/-- It is so as a signed number too. -/
theorem toInt_millis {d : Device} (h : d.clock < 2 ^ 31) : d.millis.toInt = d.clock := by
  rw [BitVec.toInt_eq_toNat_of_lt (by rw [toNat_millis h]; omega), toNat_millis h]

/-- The timer that boot sets back by an interval; it may be negative. -/
theorem toInt_millis_sub {d : Device} (h : d.clock < 2 ^ 31) :
    (d.millis - PINGSWEEP_INTERVAL_FIND_TARGET).toInt = d.clock - 60000 := by
  have hint : PINGSWEEP_INTERVAL_FIND_TARGET.toNat = 60000 := rfl
  rw [BitVec.toInt_eq_toNat_cond, BitVec.toNat_sub, toNat_millis h, hint]
  split <;> omega

/-- A sum that the signed words have room for, compared with a clock that they have room for. -/
theorem exactComparison {d : Device} {timer interval : Long} (hclock : d.clock < 2 ^ 31) (hint : interval.toNat < 2 ^ 31)
    (hlow : 0 ≤ timer.toInt + interval.toNat) (hhigh : timer.toInt + interval.toNat < 2 ^ 31) : ExactComparison d timer interval := by
  have hi : interval.toInt = interval.toNat := BitVec.toInt_eq_toNat_of_lt (by omega)
  have hsum : ((timer + interval).toNat : Int) = timer.toInt + interval.toNat := by
    rw [BitVec.toInt_eq_toNat_cond] at hlow hhigh ⊢
    rw [BitVec.toNat_add]
    split at hlow <;> omega
  constructor
  · simp only [BitVec.saddOverflow, hi, Bool.or_eq_false_iff, decide_eq_false_iff_not]
    omega
  · rw [gt_iff_lt, BitVec.lt_def, toNat_millis hclock, hi, ← hsum]
    omega

/-! ## The timers and the clock -/

/-- The timer variables: pinger, absence, ping sweep, sync. -/
def Device.timers (d : Device) : Long × Long × Long × Long := (d.pingerTimer, d.absenseTimer, d.pingsweepTimer, d.syncTimer)

/-- No timer is ahead of the clock; the one of the sweeps may be below zero. -/
structure Timely (d : Device) : Prop where
  pinger : 0 ≤ d.pingerTimer.toInt ∧ d.pingerTimer.toInt ≤ d.clock
  absense : 0 ≤ d.absenseTimer.toInt ∧ d.absenseTimer.toInt ≤ d.clock
  pingsweep : -60000 ≤ d.pingsweepTimer.toInt ∧ d.pingsweepTimer.toInt ≤ d.clock
  sync : 0 ≤ d.syncTimer.toInt ∧ d.syncTimer.toInt ≤ d.clock

/-- The timers stay behind while the clock goes on. -/
theorem Timely.later {d d' : Device} (h : Timely d) (hc : d.clock ≤ d'.clock) (ht : d'.timers = d.timers) : Timely d' := by
  obtain ⟨hp, ha, hs, hy⟩ : d'.pingerTimer = d.pingerTimer ∧ d'.absenseTimer = d.absenseTimer ∧ d'.pingsweepTimer = d.pingsweepTimer ∧
      d'.syncTimer = d.syncTimer := by simpa [Device.timers] using ht
  constructor
  · rw [hp]
    exact ⟨h.pinger.1, h.pinger.2.trans (by omega)⟩
  · rw [ha]
    exact ⟨h.absense.1, h.absense.2.trans (by omega)⟩
  · rw [hs]
    exact ⟨h.pingsweep.1, h.pingsweep.2.trans (by omega)⟩
  · rw [hy]
    exact ⟨h.sync.1, h.sync.2.trans (by omega)⟩

/-- A parse callback sets no timer. -/
theorem browserCallback_timers (cb : BrowserCallback) (buf : Nat) (status : Byte) (off len : Nat) (d : Device) :
    (browserCallback cb buf status off len d).timers = d.timers := by
  cases cb with
  | macsParse =>
    simp only [browserCallback, macsParseCallback, snifferListenForMac]
    split <;> rfl
  | stateParse =>
    simp only [browserCallback, stateParseCallback]
    split <;> rfl
  | apiSet => rfl

/-- A timer step sets one timer, from the clock. -/
theorem TimerStep.timely {st st' : List Act} {d : Device} {f : Device → Device} (hs : TimerStep st d f st') (h : Timely d)
    (hc : d.clock < 2 ^ 31) : Timely (f d) := by
  have hnow := toInt_millis hc
  have hset : 0 ≤ d.millis.toInt ∧ d.millis.toInt ≤ d.clock := by omega
  have hsweep : -60000 ≤ d.millis.toInt ∧ d.millis.toInt ≤ d.clock := by omega
  have hback : -60000 ≤ (d.millis - PINGSWEEP_INTERVAL_FIND_TARGET).toInt ∧
      (d.millis - PINGSWEEP_INTERVAL_FIND_TARGET).toInt ≤ d.clock := by
    rw [toInt_millis_sub hc]
    omega
  cases hs with
  | stamp => exact ⟨h.pinger, hset, h.pingsweep, h.sync⟩
  | pinger => exact ⟨hset, h.absense, h.pingsweep, h.sync⟩
  | pingsweep => exact ⟨h.pinger, h.absense, hsweep, h.sync⟩
  | lastDitch => exact ⟨h.pinger, h.absense, hsweep, h.sync⟩
  | sync => exact ⟨h.pinger, h.absense, h.pingsweep, hset⟩
  | bootPinger => exact ⟨hset, h.absense, h.pingsweep, h.sync⟩
  | bootAbsense => exact ⟨h.pinger, hset, h.pingsweep, h.sync⟩
  | bootPingsweep => exact ⟨h.pinger, h.absense, hback, h.sync⟩
  | bootSync => exact ⟨h.pinger, h.absense, h.pingsweep, hset⟩

/-- The other steps leave the timers alone. -/
theorem Step.timers {st st' : List Act} {w w' : World} (hs : Step st w st' w') :
    w'.dev.timers = w.dev.timers ∨ ∃ f, TimerStep st w.dev f st' ∧ w' = w.update f := by
  cases hs with
  | timer ht => exact Or.inr ⟨_, ht, rfl⟩
  | net => exact Or.inl (by rw [update_dev, note_dev]; rfl)
  | parse => exact Or.inl (by rw [update_dev, browserCallback_timers, emit_dev])
  | _ => exact Or.inl rfl

/-- Nor do the lights. -/
theorem syncLeds_timers (d : Device) : (syncLeds d).timers = d.timers := rfl

/-- Nor does the saved record. -/
theorem readStateFromEeprom_timers (d : Device) : (readStateFromEeprom d).timers = d.timers := by
  simp only [readStateFromEeprom, syncLeds_timers]
  split <;> rfl

/-- So no timer is ahead, as long as the clock is in time. -/
theorem Reach.timely {st : List Act} {w : World} (h : Reach PowerUp st w) : w.dev.clock < 2 ^ 31 → Timely w.dev := by
  refine h.invariant (P := fun _ w => w.dev.clock < 2 ^ 31 → Timely w.dev) ?_ fun st w st' w' _ ih hs hc => ?_
  · rintro st w ⟨rfl, eeprom, flash, rfl⟩ _
    have hzero : Timely (powerOn eeprom flash) :=
      ⟨⟨le_rfl, le_rfl⟩, ⟨le_rfl, le_rfl⟩, ⟨(by omega : (-60000 : Int) ≤ 0), le_rfl⟩, ⟨le_rfl, le_rfl⟩⟩
    exact hzero.later (readStateFromEeprom_clock _).ge (readStateFromEeprom_timers _)
  · have hclock := hs.clock
    have hb := ih (by omega)
    rcases hs.timers with ht | ⟨f, ht, rfl⟩
    · exact hb.later hclock ht
    · exact ht.timely hb (by omega)

/-! ## When a loop begins -/

/-- Between two loops it is not past the time of the daily reboot; a loop that is open has begun then. -/
structure Daily (st : List Act) (w : World) : Prop where
  between : st = [] → Brisk w.trace → w.dev.clock ≤ REBOOT_CLOCK
  within : Act.loop ∈ st → Brisk w.trace → ∃ s, loopStart w.trace = some s ∧ s ≤ REBOOT_CLOCK

/-- A step inside a call that leaves the loops in the trace as they are. -/
theorem Daily.move {st st' : List Act} {w w' : World} (h : Daily st w) (hne : st' ≠ []) (hm : Act.loop ∈ st' → Act.loop ∈ st)
    (hb : Brisk w'.trace → Brisk w.trace) (hl : loopStart w'.trace = loopStart w.trace) : Daily st' w' where
  between := fun he => absurd he hne
  within := fun hloop hbrisk => by
    rw [hl]
    exact h.within (hm hloop) (hb hbrisk)

/-- In a loop that is not too long, the signed words have room for the clock and for an interval more. -/
theorem clock_add_lt {s clock : Nat} (hs : s ≤ REBOOT_CLOCK) (hc : clock < s + LOOP_LIMIT) : clock + 3600000 < 2 ^ 31 := by
  have hday : REBOOT_CLOCK = 86400000 := rfl
  unfold LOOP_LIMIT at hc
  omega

/-- In a brisk run the clock is in time. -/
theorem clock_lt {s clock : Nat} (hs : s ≤ REBOOT_CLOCK) (hc : clock < s + LOOP_LIMIT) : clock < 2 ^ 31 := by
  have := clock_add_lt hs hc
  omega

/-- A run that is brisk has been so. -/
theorem Brisk.tail {ev : Event} {d : Device} {past : Trace} (h : Brisk ((ev, d) :: past)) : Brisk past := h.2

/-- What is returned to is a call under way. -/
theorem Resumes.ne_nil {st : List Act} (h : Resumes st) : st ≠ [] := by
  cases h <;> exact List.cons_ne_nil _ _

/-- So is what the sniffer's callback returns to. -/
theorem Sniffed.ne_nil {st : List Act} {l : Bool} (h : Sniffed st l) : st ≠ [] := by
  cases h <;> exact List.cons_ne_nil _ _

/-- A server call does not begin a `loop`. -/
theorem CallSite.loop {k : Api} {st st' : List Act} (hc : CallSite k st st') : Act.loop ∈ st' → Act.loop ∈ st := by
  cases hc <;> simp

/-- The steps of the library keep it. -/
theorem NetStep.daily {st st' : List Act} {w : World} {note : Option Event} {f : Ether → Ether} (hn : NetStep st w.dev note f st')
    (h : Daily st w) : Daily st' ((w.note note).update (Device.net f)) := by
  cases hn with
  | log msg _ hlogs => exact h.move hlogs.ne_nil id id rfl
  | dhcp => exact h.move (List.cons_ne_nil _ _) (by simp) Brisk.tail rfl
  | idle => exact h.move (List.cons_ne_nil _ _) (by simp) Brisk.tail rfl
  | probe => exact h.move (List.cons_ne_nil _ _) (by simp) Brisk.tail rfl
  | ping => exact h.move (List.cons_ne_nil _ _) id Brisk.tail rfl
  | _ => exact h.move (List.cons_ne_nil _ _) (by simp) id rfl

/-- What is noted keeps it: a `loop` ends before the daily reboot. -/
theorem MarkStep.daily {st st' : List Act} {w : World} {ev : Event} (hm : MarkStep st w.dev ev st') (hw : WellStacked st w)
    (h : Daily st w) : Daily st' (w.emit ev) := by
  cases hm with
  | wdtReset => exact ⟨fun he hb => h.between he hb.tail, fun hm hb => h.within hm hb.tail⟩
  | ignored => exact h.move (List.cons_ne_nil _ _) (by simp) Brisk.tail rfl
  | hooked => exact h.move (List.cons_ne_nil _ _) (by simp) Brisk.tail rfl
  | abort hc => exact h.move (hc.resumes hw).ne_nil hc.loop Brisk.tail rfl
  | enter hc => exact h.move (List.cons_ne_nil _ _) (fun hm => hc.loop (by simpa using hm)) Brisk.tail rfl
  | leave => exact h.move hw.home.1.resumes.ne_nil (List.mem_cons_of_mem _) Brisk.tail rfl
  | polled => exact h.move hw.resumes.ne_nil (List.mem_cons_of_mem _) Brisk.tail rfl
  | loopBegin =>
    refine ⟨nofun, fun _ hbrisk => ⟨w.dev.clock, rfl, h.between rfl hbrisk.tail⟩⟩
  | compared hc => exact h.move hc.ne_nil id Brisk.tail rfl
  | loopEnd hreboot =>
    refine ⟨fun _ hbrisk => ?_, fun hm => absurd hm List.not_mem_nil⟩
    obtain ⟨s, hs, hle⟩ := h.within List.mem_cons_self hbrisk.tail
    have hlimit := hbrisk.1.2 s hs
    have hreboot' : w.dev.millis ≤ REBOOT_INTERVAL := BitVec.not_lt.mp hreboot
    rwa [BitVec.le_def, toNat_millis (clock_lt hle hlimit)] at hreboot'
  | setupEnd => exact ⟨fun _ hbrisk => (hbrisk.1.1 rfl).le, fun hm => absurd hm List.not_mem_nil⟩
  | sweepBegin => exact h.move (List.cons_ne_nil _ _) (by simp) Brisk.tail rfl
  | sweepEnd => exact h.move (List.cons_ne_nil _ _) (by simp) Brisk.tail rfl
  | lastDitchBegin => exact h.move (List.cons_ne_nil _ _) (by simp) Brisk.tail rfl
  | lastDitchEnd => exact h.move (List.cons_ne_nil _ _) (by simp) Brisk.tail rfl

/-- Each step keeps it. -/
theorem Step.daily {st st' : List Act} {w w' : World} (hs : Step st w st' w') (hw : WellStacked st w) (h : Daily st w) :
    Daily st' w' := by
  cases hs with
  | tick => exact h.move (List.cons_ne_nil _ _) id id rfl
  | net hn => exact hn.daily h
  | ctrl hc =>
    refine h.move ?_ ?_ id rfl
    · cases hc <;> exact List.cons_ne_nil _ _
    · cases hc <;> simp
  | mark hm => exact hm.daily hw h
  | timer ht =>
    refine h.move ?_ ?_ id rfl
    · cases ht <;> exact List.cons_ne_nil _ _
    · cases ht <;> simp
  | poll => exact h.move (List.cons_ne_nil _ _) (by simp) (fun hb => hb.tail.tail) rfl
  | receive => exact h.move (List.cons_ne_nil _ _) id Brisk.tail rfl
  | sniff => exact h.move (List.cons_ne_nil _ _) (by simp) Brisk.tail rfl
  | toggleOn => exact h.move (List.cons_ne_nil _ _) (by simp) Brisk.tail rfl
  | toggleOff => exact h.move (List.cons_ne_nil _ _) (by simp) Brisk.tail rfl
  | learn => exact h.move (List.cons_ne_nil _ _) id Brisk.tail rfl
  | unsniff => exact h.move hw.sniffed.1.ne_nil (List.mem_cons_of_mem _) Brisk.tail rfl
  | requested => exact h.move (List.cons_ne_nil _ _) (by simp) Brisk.tail rfl
  | parse => exact h.move (List.cons_ne_nil _ _) (by simp) Brisk.tail rfl
  | lock => exact h.move (List.cons_ne_nil _ _) (by simp) id rfl
  | forget =>
    obtain ⟨rfl, _⟩ := hw.absence_flags
    exact h.move (List.cons_ne_nil _ _) (by simp) Brisk.tail rfl
  | bootApiIp => exact h.move (List.cons_ne_nil _ _) id id rfl

/-- So it holds wherever a run has got. -/
theorem Reach.daily {st : List Act} {w : World} (h : Reach PowerUp st w) : Daily st w := by
  refine h.invariant (fun st w hi => ?_) fun st w st' w' hr hd hs => hs.daily (hr.wellStacked powerUp_start) hd
  obtain ⟨rfl, eeprom, flash, rfl⟩ := hi
  exact ⟨nofun, fun hm => absurd hm (by simp)⟩

/-! ## Every comparison -/

/-- A comparison of a timer that is not ahead of the clock. -/
theorem Compares.exact {st : List Act} {d : Device} {timer interval : Long} (hc : Compares st d timer interval) (hb : Timely d)
    (hclock : d.clock + 3600000 < 2 ^ 31) : ExactComparison d timer interval := by
  have hlt : d.clock < 2 ^ 31 := by omega
  obtain ⟨hp, ha, hs, hy⟩ := hb
  have hI : PINGER_INTERVAL.toNat = 2000 ∧ ABSENSE_TIMEOUT.toNat = 900000 ∧ PINGSWEEP_INTERVAL_FIND_TARGET.toNat = 60000 ∧
      PINGSWEEP_INTERVAL_RESCAN.toNat = 3600000 ∧ SYNC_INTERVAL.toNat = 300000 := ⟨rfl, rfl, rfl, rfl, rfl⟩
  cases hc <;> exact exactComparison hlt (by omega) (by omega) (by omega)

/-- The comparisons are those of `loop`. -/
theorem Compares.loop {st : List Act} {d : Device} {timer interval : Long} (hc : Compares st d timer interval) : Act.loop ∈ st := by
  cases hc <;> simp

/-- In every run from power-on, at every comparison of a timer by `loop`: if `setup` has ended within a day and no `loop` so far has taken
2^30 milliseconds, then adding the interval to the timer does not overflow, and the comparison has the result that it has over the
integers. -/
theorem timers_exact (eeprom flash : Nat → Byte) (tape : List Input) :
    Always (fun ev d past => ∀ timer interval, ev = .compared timer interval → Brisk ((ev, d) :: past) →
      timer.saddOverflow interval = false ∧ (d.millis > timer + interval ↔ (d.clock : Int) > timer.toInt + interval.toInt))
      (run eeprom flash tape).trace := by
  obtain ⟨st, hr⟩ := run_reached eeprom flash tape
  refine hr.always ?_ fun st w ev d past hr hn => ?_
  · rintro st w ⟨rfl, eeprom, flash, rfl⟩
    exact ⟨nofun, nofun, nofun, trivial⟩
  · cases hn with
    | mark hm => cases hm with
      | compared hc =>
        rintro timer interval ⟨⟩ hbrisk
        obtain ⟨s, hs, hle⟩ := hr.daily.within hc.loop hbrisk.tail
        have hclock := clock_add_lt hle (hbrisk.1.2 s hs)
        have hex := hc.exact (hr.timely (by omega)) hclock
        exact ⟨hex.noOverflow, hex.exact⟩
      | _ => nofun
    | net hn => cases hn <;> nofun
    | _ => nofun

/-- A boot with the house on; the phone is heard of, and the first call of `loop` finds five minutes gone. -/
def firstSync : List Input := bootWith 0x01 ++ framePoll phoneDatagram ++ passes 300001 ++ silence 6

set_option maxRecDepth 10000 in
/-- The sync timer has run out, over the integers too. -/
theorem timers_exact_firstSync :
    Sometimes (fun ev d past => ∃ timer, ev = .compared timer SYNC_INTERVAL ∧ Brisk ((ev, d) :: past) ∧
      timer.saddOverflow SYNC_INTERVAL = false ∧ (d.clock : Int) > timer.toInt + SYNC_INTERVAL.toInt) (run blank blank firstSync).trace := by
  have hmet : Sometimes (fun ev d past => ev = .compared 12000 SYNC_INTERVAL ∧ Brisk ((ev, d) :: past) ∧
      d.millis > 12000 + SYNC_INTERVAL) (run blank blank firstSync).trace := by decide +kernel
  refine ((timers_exact blank blank firstSync).sometimes hmet).mono fun ev d past h => ?_
  obtain ⟨⟨hev, hbrisk, hlate⟩, hexact⟩ := h
  obtain ⟨hno, hiff⟩ := hexact 12000 SYNC_INTERVAL hev hbrisk
  exact ⟨12000, hev, hbrisk, hno, hiff.mp hlate⟩

end EtherHouse
